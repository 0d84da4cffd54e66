import Mathlib.Data.List.Forall2

/-!
# Lists that are read item by item

Several readers take a list apart, read each item by itself, and fail if one of the items does: the
positions of a node's dependencies, the slots of a record, the directories of an input list.  What
such a reader gives is said by `List.Forall₂`, item by item.
-/

namespace Provenance.Itemwise

variable {α : Type u} {β : Type v}

lemma mapM_eq_some_of_forall₂ {f : α → Option β} {as : List α} {bs : List β}
    (h : List.Forall₂ (fun a b => f a = some b) as bs) : as.mapM f = some bs := by
  induction h with
  | nil => rfl
  | cons hb _ ih => simp [List.mapM_cons, hb, ih]

/-- Everything is read if and only if each item is. -/
lemma mapM_eq_some_iff {f : α → Option β} {as : List α} {bs : List β} :
    as.mapM f = some bs ↔ List.Forall₂ (fun a b => f a = some b) as bs := by
  refine ⟨fun h => ?_, mapM_eq_some_of_forall₂⟩
  induction as generalizing bs with
  | nil =>
      obtain rfl := Option.some.inj h
      exact .nil
  | cons a as ih =>
      simp only [List.mapM_cons, Option.bind_eq_bind, Option.bind_eq_some_iff] at h
      obtain ⟨b, hb, bs', hbs', h⟩ := h
      obtain rfl := Option.some.inj h
      exact .cons hb (ih hbs')

/-- Everything that has been read has been read from one of the items. -/
lemma exists_of_mem_mapM {f : α → Option β} {as : List α} {bs : List β} (h : as.mapM f = some bs)
    {b : β} (hb : b ∈ bs) : ∃ a ∈ as, f a = some b := by
  induction mapM_eq_some_iff.1 h with
  | nil => cases hb
  | @cons a b' as bs hread hall ih =>
      rcases List.mem_cons.1 hb with rfl | hb
      · exact ⟨a, List.mem_cons_self, hread⟩
      · obtain ⟨a', ha', hread'⟩ := ih (mapM_eq_some_of_forall₂ hall) hb
        exact ⟨a', List.mem_cons_of_mem a ha', hread'⟩

/-- Two lists whose items read alike read alike. -/
lemma mapM_congr {γ : Type w} {f : α → Option γ} {g : β → Option γ} {as : List α} {bs : List β}
    (h : List.Forall₂ (fun a b => f a = g b) as bs) : as.mapM f = bs.mapM g := by
  induction h with
  | nil => rfl
  | cons hab _ ih => simp only [List.mapM_cons, hab, ih]

/-! ## With a report of what fails -/

variable {ε : Type w} {f : α → Except ε β}

lemma mapM_cons_ok {a : α} {b : β} (as : List α) (hb : f a = .ok b) :
    (a :: as).mapM f = (as.mapM f).map (b :: ·) := by
  rw [List.mapM_cons, hb]
  cases as.mapM f <;> rfl

lemma mapM_cons_error {a : α} {e : ε} (as : List α) (he : f a = .error e) :
    (a :: as).mapM f = .error e := by
  rw [List.mapM_cons, he]
  rfl

lemma mapM_eq_ok_of_forall₂ {as : List α} {bs : List β}
    (h : List.Forall₂ (fun a b => f a = .ok b) as bs) : as.mapM f = .ok bs := by
  induction h with
  | nil => rfl
  | cons hb _ ih =>
      rw [mapM_cons_ok _ hb, ih]
      rfl

/-- Either all items are read, or one of them fails and its failure is reported. -/
lemma mapM_cases (f : α → Except ε β) (as : List α) :
    (∃ bs, as.mapM f = .ok bs ∧ List.Forall₂ (fun a b => f a = .ok b) as bs) ∨
      ∃ e, as.mapM f = .error e ∧ ∃ a ∈ as, f a = .error e := by
  induction as with
  | nil => exact .inl ⟨[], rfl, .nil⟩
  | cons a as ih =>
      cases ha : f a with
      | error e => exact .inr ⟨e, mapM_cons_error as ha, a, List.mem_cons_self, ha⟩
      | ok b =>
          rw [mapM_cons_ok as ha]
          rcases ih with ⟨bs, hbs, hall⟩ | ⟨e, he, x, hx, hfail⟩
          · left
            rw [hbs]
            exact ⟨b :: bs, rfl, .cons ha hall⟩
          · right
            rw [he]
            exact ⟨e, rfl, x, List.mem_cons_of_mem a hx, hfail⟩

/-- Everything is read if and only if each item is. -/
lemma mapM_eq_ok_iff {as : List α} {bs : List β} :
    as.mapM f = .ok bs ↔ List.Forall₂ (fun a b => f a = .ok b) as bs := by
  constructor
  · intro h
    rcases mapM_cases f as with ⟨cs, hcs, hall⟩ | ⟨e, he, -⟩
    · rw [hcs] at h
      cases h
      exact hall
    · rw [he] at h
      cases h
  · exact mapM_eq_ok_of_forall₂

/-- The failure that is reported is that of the first item that fails. -/
lemma mapM_eq_error_iff {as : List α} {e : ε} :
    as.mapM f = .error e ↔ ∃ front a back, as = front ++ a :: back ∧
      (∀ x ∈ front, ∃ b, f x = .ok b) ∧ f a = .error e := by
  constructor
  · intro h
    induction as with
    | nil => cases h
    | cons a as ih =>
        cases ha : f a with
        | error e' =>
            rw [mapM_cons_error as ha] at h
            cases h
            exact ⟨[], a, as, rfl, by simp, ha⟩
        | ok b =>
            rw [mapM_cons_ok as ha] at h
            cases hrest : as.mapM f with
            | ok bs =>
                rw [hrest] at h
                cases h
            | error e' =>
                rw [hrest] at h
                cases h
                obtain ⟨front, x, back, rfl, hfront, hx⟩ := ih hrest
                exact ⟨a :: front, x, back, rfl,
                  List.forall_mem_cons.2 ⟨⟨b, ha⟩, hfront⟩, hx⟩
  · rintro ⟨front, a, back, rfl, hfront, ha⟩
    induction front with
    | nil => exact mapM_cons_error back ha
    | cons x front ih =>
        obtain ⟨⟨b, hx⟩, hfront⟩ := List.forall_mem_cons.1 hfront
        rw [List.cons_append, mapM_cons_ok _ hx, ih hfront]
        rfl

/-- If an item fails, nothing is read. -/
lemma exists_mapM_eq_error {as : List α} {a : α} {e : ε} (ha : a ∈ as) (he : f a = .error e) :
    ∃ e', as.mapM f = .error e' := by
  induction as with
  | nil => cases ha
  | cons x as ih =>
      cases hx : f x with
      | error e' => exact ⟨e', mapM_cons_error as hx⟩
      | ok b =>
          have hrest : a ∈ as := by
            rcases List.mem_cons.1 ha with rfl | hmem
            · rw [he] at hx
              cases hx
            · exact hmem
          obtain ⟨e', he'⟩ := ih hrest
          refine ⟨e', ?_⟩
          rw [mapM_cons_ok as hx, he']
          rfl

end Provenance.Itemwise
