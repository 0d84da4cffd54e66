import Mathlib.Data.Nat.Notation
import Mathlib.Tactic.Lemma

/-!
# Texts that are cut at bytes

A text in memory is a row of bytes, one to four for each character (`width_toList`), and a search in
it gives the number of bytes in front of what is found.  Cutting the text at a number of bytes is
only possible between two characters (`cutAt?_eq_some_iff`).

A character that is found has such a place in front of it (`offsetOf?_append`, `cutAt?_append`), and
the byte behind that is one too if the character takes a single byte (`cutAt?_append_cons`).
-/

namespace Provenance.Text

variable {cs front back : List Char} {c : Char} {n : ℕ}

/-- How many bytes a text takes. -/
def width : List Char → ℕ
  | [] => 0
  | c :: cs => c.utf8Size + width cs

/-- The two parts of a text in front of a byte and behind it, unless this is within a character or
behind the end of the text. -/
def cutAt? : List Char → ℕ → Option (List Char × List Char)
  | cs, 0 => some ([], cs)
  | [], _ + 1 => none
  | c :: cs, n + 1 =>
    if c.utf8Size ≤ n + 1 then
      (cutAt? cs (n + 1 - c.utf8Size)).map fun (front, back) => (c :: front, back)
    else none

/-- How many bytes are in front of the first occurrence of a pattern. -/
def offsetOf? (pattern : List Char) : List Char → Option ℕ
  | [] => if pattern.isEmpty then some 0 else none
  | c :: cs =>
    if pattern.isPrefixOf (c :: cs) then some 0
    else (offsetOf? pattern cs).map (c.utf8Size + ·)

/-! ## Counting bytes -/

@[simp] lemma width_nil : width [] = 0 := rfl

@[simp] lemma width_cons (c : Char) (cs : List Char) :
    width (c :: cs) = c.utf8Size + width cs := rfl

@[simp] lemma width_append (cs ds : List Char) : width (cs ++ ds) = width cs + width ds := by
  induction cs with
  | nil => simp
  | cons c cs ih => simp [ih, Nat.add_assoc]

lemma width_ofList (cs : List Char) : width cs = (String.ofList cs).utf8ByteSize := by
  induction cs with
  | nil => rfl
  | cons c cs ih =>
      have hsplit : String.ofList (c :: cs) = String.singleton c ++ String.ofList cs := by
        rw [String.singleton_eq_ofList, ← String.ofList_append]
        rfl
      rw [width_cons, ih, hsplit, String.utf8ByteSize_append, String.utf8ByteSize_singleton]

/-- The bytes that are counted are those of the text in memory. -/
lemma width_toList (s : String) : width s.toList = s.utf8ByteSize := by
  rw [width_ofList, String.ofList_toList]

/-! ## Cutting -/

/-- A text can be cut behind a part of it. -/
lemma cutAt?_append (front back : List Char) :
    cutAt? (front ++ back) (width front) = some (front, back) := by
  induction front with
  | nil => rw [width_nil, List.nil_append, cutAt?]
  | cons c front ih =>
      have hpos : 0 < c.utf8Size + width front := Nat.add_pos_left c.utf8Size_pos _
      obtain ⟨k, hk⟩ := Nat.exists_eq_add_of_lt hpos
      rw [Nat.zero_add] at hk
      rw [List.cons_append, width_cons, hk, cutAt?, ← hk, if_pos (Nat.le_add_right _ _),
        Nat.add_sub_cancel_left, ih]
      rfl

/-- **A text can be cut only between two characters.** -/
lemma cutAt?_eq_some_iff :
    cutAt? cs n = some (front, back) ↔ cs = front ++ back ∧ n = width front := by
  constructor
  · intro h
    induction cs, n using cutAt?.induct generalizing front with
    | case1 cs =>
        rw [cutAt?] at h
        cases h
        exact ⟨rfl, rfl⟩
    | case2 n => cases h
    | case3 c cs n hle ih =>
        rw [cutAt?, if_pos hle] at h
        obtain ⟨⟨front', back'⟩, hcut, hparts⟩ := Option.map_eq_some_iff.1 h
        cases hparts
        obtain ⟨rfl, hn⟩ := ih hcut
        refine ⟨rfl, ?_⟩
        rw [width_cons]
        omega
    | case4 c cs n hlt =>
        rw [cutAt?, if_neg hlt] at h
        cases h
  · rintro ⟨rfl, rfl⟩
    exact cutAt?_append front back

/-- The byte behind a character of one byte is between two characters. -/
lemma cutAt?_append_cons (hc : c.utf8Size = 1) (front back : List Char) :
    cutAt? (front ++ c :: back) (width front + 1) = some (front ++ [c], back) := by
  rw [cutAt?_eq_some_iff]
  exact ⟨by simp, by simp [hc]⟩

/-! ## Searching for a character -/

lemma offsetOf?_of_notMem (h : c ∉ cs) : offsetOf? [c] cs = none := by
  induction cs with
  | nil => rfl
  | cons d cs ih =>
      obtain ⟨hd, hcs⟩ : c ≠ d ∧ c ∉ cs := by simpa using h
      have hbegins : ¬[c].isPrefixOf (d :: cs) = true := by simpa using hd
      rw [offsetOf?, if_neg hbegins, ih hcs]
      rfl

/-- A character is found behind a text without it. -/
lemma offsetOf?_append (h : c ∉ front) (back : List Char) :
    offsetOf? [c] (front ++ c :: back) = some (width front) := by
  induction front with
  | nil =>
      have hbegins : [c].isPrefixOf (c :: back) = true := by simp
      rw [List.nil_append, offsetOf?, if_pos hbegins, width_nil]
  | cons d front ih =>
      obtain ⟨hd, hfront⟩ : c ≠ d ∧ c ∉ front := by simpa using h
      have hbegins : ¬[c].isPrefixOf (d :: (front ++ c :: back)) = true := by simpa using hd
      rw [List.cons_append, offsetOf?, if_neg hbegins, ih hfront, width_cons]
      rfl

end Provenance.Text
