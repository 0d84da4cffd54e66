import Provenance.Proofs.Itemwise
import Provenance.Settings.Reader

/-!
# What a settings file says

A settings file spells a record with named fields, or nothing at all, which is a record without
fields (`Yaml.Tree.IsRecord`).  Of each field that settings can have it says something once or
nothing; it says nothing of any other (`Settings.Says`).  A field of which nothing is said is as by
default.

The records from which settings are read are exactly those (`Settings.ofTree?_eq_some_iff`).
-/

namespace Provenance

namespace Yaml.Tree

/-! ## Records -/

/-- The tree is a record with certain fields, by their names. -/
inductive IsRecord : Tree → List (String × Tree) → Prop
  | mapping {tag : Option String} {fields : List (Tree × Tree)} {named : List (String × Tree)} :
      List.Forall₂ (fun f n => f.1.text? = some n.1 ∧ f.2 = n.2) fields named →
      IsRecord (.mapping tag fields) named
  /-- Nothing at all is a record without fields. -/
  | blank {t : Tree} : t.isBlank = true → IsRecord t []

/-- What the fields of a record have under a name. -/
inductive HasSlot (fields : List (String × Tree)) (name : String) : Option Tree → Prop
  | missing : (∀ f ∈ fields, f.1 ≠ name) → HasSlot fields name none
  | given {front back : List (String × Tree)} {v : Tree} : fields = front ++ (name, v) :: back →
      (∀ f ∈ front, f.1 ≠ name) → (∀ f ∈ back, f.1 ≠ name) → HasSlot fields name (some v)

/-- The slot of a name among the fields of a record, unless the name is there twice. -/
def slotIn? (fields : List (String × Tree)) (name : String) : Option (Option Tree) :=
  match fields.filter (·.1 == name) with
  | [] => some none
  | [(_, v)] => some (some v)
  | _ => none

variable {t : Tree} {fields : List (String × Tree)} {names : List String} {name : String}

lemma slotIn?_eq_some_iff {slot : Option Tree} :
    slotIn? fields name = some slot ↔ HasSlot fields name slot := by
  constructor
  · intro h
    unfold slotIn? at h
    split at h
    · rename_i hnone
      obtain rfl := Option.some.inj h
      exact .missing (by simpa using hnone)
    · rename_i k v hone
      obtain rfl := Option.some.inj h
      obtain ⟨front, back, rfl, hfront, hname, hback⟩ := List.filter_eq_cons_iff.1 hone
      obtain rfl : k = name := by simpa using hname
      exact .given rfl (by simpa using hfront) (by simpa using hback)
    · cases h
  · rintro (hmissing | ⟨rfl, hfront, hback⟩)
    · have hnone : fields.filter (·.1 == name) = [] := by simpa using hmissing
      rw [slotIn?, hnone]
    · rename_i front back v
      have hone : (front ++ (name, v) :: back).filter (·.1 == name) = [(name, v)] :=
        List.filter_eq_cons_iff.2
          ⟨front, back, rfl, by simpa using hfront, by simp, by simpa using hback⟩
      rw [slotIn?, hone]

lemma slots?_of_isRecord (h : IsRecord t fields) (names : List String) : t.slots? names =
    if fields.all fun f => names.contains f.1 then names.mapM (slotIn? fields) else none := by
  cases h with
  | mapping hfields =>
      rename_i tag written
      have hnamed : (written.mapM fun f : Tree × Tree => f.1.text?.bind fun k => some (k, f.2)) =
          some fields := by
        refine Itemwise.mapM_eq_some_iff.2 (hfields.imp fun f n hfield => ?_)
        rw [hfield.1, hfield.2]
        rfl
      show (written.mapM fun f : Tree × Tree => f.1.text?.bind fun k => some (k, f.2)).bind _ = _
      rw [hnamed]
      rfl
  | blank hblank =>
      cases t with
      | mapping tag written => cases hblank
      | sequence tag items => cases hblank
      | scalar tag text plain =>
          simp only [slots?, hblank]
          rfl

/-- Only records have slots. -/
lemma exists_isRecord_of_slots? {slots : List (Option Tree)} (h : t.slots? names = some slots) :
    ∃ fields, IsRecord t fields := by
  cases t with
  | mapping tag written =>
      obtain ⟨fields, hfields, -⟩ := Option.bind_eq_some_iff.1 h
      refine ⟨fields, .mapping ((Itemwise.mapM_eq_some_iff.1 hfields).imp fun f n hfield => ?_)⟩
      obtain ⟨k, hk, hn⟩ := Option.bind_eq_some_iff.1 hfield
      obtain rfl := Option.some.inj hn
      exact ⟨hk, rfl⟩
  | sequence tag items => cases h
  | scalar tag text plain =>
      by_cases hblank : (scalar tag text plain).isBlank = true
      · exact ⟨[], .blank hblank⟩
      · simp [slots?, hblank] at h

/-- **The slots of a record**: each of its fields has one of the names, and each name has one slot. -/
lemma slots?_eq_some_iff {slots : List (Option Tree)} :
    t.slots? names = some slots ↔ ∃ fields, IsRecord t fields ∧ (∀ f ∈ fields, f.1 ∈ names) ∧
      List.Forall₂ (HasSlot fields) names slots := by
  have hslots : ∀ fields, IsRecord t fields → (t.slots? names = some slots ↔
      (∀ f ∈ fields, f.1 ∈ names) ∧ List.Forall₂ (HasSlot fields) names slots) := by
    intro fields hrecord
    rw [slots?_of_isRecord hrecord, Option.ite_none_right_eq_some, Itemwise.mapM_eq_some_iff]
    simp only [slotIn?_eq_some_iff, List.all_eq_true, List.contains_iff_mem]
  constructor
  · intro h
    obtain ⟨fields, hrecord⟩ := exists_isRecord_of_slots? h
    exact ⟨fields, hrecord, (hslots fields hrecord).1 h⟩
  · rintro ⟨fields, hrecord, hfields⟩
    exact (hslots fields hrecord).2 hfields

end Yaml.Tree

/-! ## Settings -/

namespace Settings

open Yaml (Tree)

/-- The names of the fields of settings. -/
def fieldNames : List String :=
  ["namespace", "parent_run_id", "parent_job_name", "app_name", "default_fs"]

/-- A text that is given, or the one by default. -/
inductive IsText (standard : String) : Option Tree → String → Prop
  | missing : IsText standard none standard
  | given {v : Tree} {text : String} : v.text? = some text → IsText standard (some v) text

/-- A text that is given, unless nothing is. -/
inductive IsOptionalText : Option Tree → Option String → Prop
  | missing : IsOptionalText none none
  | nothing {v : Tree} : v.isNothing? = some true → IsOptionalText (some v) none
  | given {v : Tree} {text : String} : v.isNothing? = some false → v.text? = some text →
      IsOptionalText (some v) (some text)

/-- The fields of a record say what the settings are; what they do not say is as by default. -/
structure Says (standard : Settings) (fields : List (String × Tree)) (s : Settings) : Prop where
  known : ∀ f ∈ fields, f.1 ∈ fieldNames
  namespaceName : ∃ slot, Tree.HasSlot fields "namespace" slot ∧
    IsText standard.namespaceName slot s.namespaceName
  parentRunId : ∃ slot, Tree.HasSlot fields "parent_run_id" slot ∧
    IsText standard.parentRunId slot s.parentRunId
  parentJobName : ∃ slot, Tree.HasSlot fields "parent_job_name" slot ∧
    IsText standard.parentJobName slot s.parentJobName
  appName : ∃ slot, Tree.HasSlot fields "app_name" slot ∧ IsOptionalText slot s.appName
  defaultFs : ∃ slot, Tree.HasSlot fields "default_fs" slot ∧
    IsText standard.defaultFs slot s.defaultFs

/-- The tree is a record that says what the settings are. -/
def Spells (standard : Settings) (t : Tree) (s : Settings) : Prop :=
  ∃ fields, t.IsRecord fields ∧ Says standard fields s

lemma isText_iff {standard text : String} {slot : Option Tree} :
    IsText standard slot text ↔ Tree.orElse? Tree.text? standard slot = some text := by
  constructor
  · rintro (_ | htext)
    · rfl
    · exact htext
  · intro h
    cases slot with
    | none =>
        obtain rfl := Option.some.inj h
        exact .missing
    | some v => exact .given h

lemma isOptionalText_iff {text : Option String} {slot : Option Tree} :
    IsOptionalText slot text ↔ Tree.optional? Tree.text? slot = some text := by
  constructor
  · rintro (_ | hnothing | ⟨hnot, htext⟩)
    · rfl
    · simp [Tree.optional?, hnothing]
    · simp [Tree.optional?, hnot, htext]
  · intro h
    cases slot with
    | none =>
        obtain rfl := Option.some.inj h
        exact .missing
    | some v =>
        obtain ⟨isNothing, hnothing, hrest⟩ := Option.bind_eq_some_iff.1 h
        cases isNothing with
        | true =>
            obtain rfl := Option.some.inj hrest
            exact .nothing hnothing
        | false =>
            obtain ⟨text, htext, rfl⟩ := Option.map_eq_some_iff.1 hrest
            exact .given hnothing htext

/-- **The settings that a tree spells** are what it says of each field, and for the rest those by
default. -/
lemma ofTree?_eq_some_iff {standard s : Settings} {t : Tree} :
    ofTree? standard t = some s ↔ Spells standard t s := by
  unfold ofTree?
  simp only [Option.bind_eq_bind, Option.bind_eq_some_iff, Tree.slots?_eq_some_iff]
  constructor
  · rintro ⟨slots, ⟨fields, hrecord, hknown, hslots⟩, hvalues⟩
    obtain _ | ⟨hnamespace, hslots⟩ := hslots
    obtain _ | ⟨hrun, hslots⟩ := hslots
    obtain _ | ⟨hjob, hslots⟩ := hslots
    obtain _ | ⟨happ, hslots⟩ := hslots
    obtain _ | ⟨hfs, _ | _⟩ := hslots
    simp only [Option.bind_eq_some_iff] at hvalues
    obtain ⟨namespaceName, hn, run, hr, job, hj, app, ha, fs, hf, hs⟩ := hvalues
    obtain rfl := Option.some.inj hs
    exact ⟨fields, hrecord, hknown, ⟨_, hnamespace, isText_iff.2 hn⟩, ⟨_, hrun, isText_iff.2 hr⟩,
      ⟨_, hjob, isText_iff.2 hj⟩, ⟨_, happ, isOptionalText_iff.2 ha⟩, ⟨_, hfs, isText_iff.2 hf⟩⟩
  · rintro ⟨fields, hrecord, hknown, ⟨_, hnamespace, hn⟩, ⟨_, hrun, hr⟩, ⟨_, hjob, hj⟩,
      ⟨_, happ, ha⟩, ⟨_, hfs, hf⟩⟩
    refine ⟨_, ⟨fields, hrecord, hknown, .cons hnamespace (.cons hrun (.cons hjob (.cons happ
      (.cons hfs .nil))))⟩, ?_⟩
    simp only [isText_iff.1 hn, isText_iff.1 hr, isText_iff.1 hj, isOptionalText_iff.1 ha,
      isText_iff.1 hf, Option.bind_some]

end Settings

end Provenance
