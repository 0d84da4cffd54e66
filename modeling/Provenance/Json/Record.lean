import Provenance.Json.Reader

/-!
# Records in JSON

A record is written as an object with named fields, in any order, or as an array of the values of
its fields in the order in which the record declares them.  A field may be named only once.  Keys
that the record does not declare are skipped with whatever stands behind them, or refused where the
record is `closed`.

A record's reader asks for its `slots?`: one slot for each declared field, empty if the field is
missing.  Which slots may be empty is for the reader to say.
-/

namespace Provenance.Json.Written

/-- The slot of a field among the fields of an object; `none` if the field is named twice. -/
def slot? (fields : List (Option String × Written)) (name : String) : Option (Option Written) :=
  match fields.filter (·.1 == some name) with
  | [] => some none
  | [(_, w)] => some (some w)
  | _ => none

/-- The slots of a record with the given fields; `none` if the value is no such record. -/
def slots? (names : List String) (closed : Bool) : Written → Option (List (Option Written))
  | object fields =>
    if fields.all fun f => match f.1 with
      | none => false
      | some k => !closed || names.contains k
    then names.mapM (slot? fields)
    else none
  | array items =>
    if items.length ≤ names.length then
      some (items.map some ++ List.replicate (names.length - items.length) none)
    else none
  | _ => none

/-- The text that a value is. -/
def text? : Written → Option String
  | text s => s
  | _ => none

/-- The items that an array has. -/
def items? : Written → Option (List Written)
  | array items => some items
  | _ => none

/-- The list that an array spells, each item read by `f`. -/
def list? (f : Written → Option α) (w : Written) : Option (List α) := do
  (← w.items?).mapM f

/-- A value that may be absent: missing, or null. -/
def optional? (f : Written → Option α) : Option Written → Option (Option α)
  | none => some none
  | some null => some none
  | some w => (f w).map some

/-- A value with a default for a field that is missing. -/
def orElse? (f : Written → Option α) (default : α) : Option Written → Option α
  | none => some default
  | some w => f w

/-- The entries of an object as settings of a dictionary, each value read by `f`. -/
def settings? (f : Written → Option α) : Written → Option (List (String × α))
  | object fields => fields.mapM fun e => do some (← e.1, ← f e.2)
  | _ => none

end Provenance.Json.Written
