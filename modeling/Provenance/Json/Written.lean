import Provenance.Json

/-!
# JSON values as they are written

`Written` is what a JSON text says before it is asked for a meaning: fields stand in their order
and may repeat a key, a number may be too great to be represented, and the escapes of a text
literal may fail to form characters.  The last two are `none` here.  A reader that ignores a part
of a text never notices what is wrong inside it; one that takes the part as data asks for its
`value?`.
-/

namespace Provenance.Json

/-- A JSON value as it is written. -/
inductive Written where
  | null
  | bool (b : Bool)
  | number (value : Option Number)
  | text (value : Option String)
  | array (items : List Written)
  | object (fields : List (Option String × Written))
  deriving Inhabited

namespace Written

/-! ## Depth -/

mutual

/-- How many arrays and objects are nested in one another. -/
def depth : Written → Nat
  | array items => depthItems items + 1
  | object fields => depthFields fields + 1
  | null => 0
  | bool _ => 0
  | number _ => 0
  | text _ => 0

/-- The greatest depth of a list of values. -/
def depthItems : List Written → Nat
  | [] => 0
  | w :: ws => max (depth w) (depthItems ws)

/-- The greatest depth among the values of a list of fields. -/
def depthFields : List (Option String × Written) → Nat
  | [] => 0
  | (_, w) :: fs => max (depth w) (depthFields fs)

end

/-- Arrays and objects may be nested this deep where they are taken as data. -/
def depthLimit : Nat := 127

/-- Whether a value that stands inside `enclosing` arrays and objects keeps to the depth limit. -/
def fitsWithin (w : Written) (enclosing : Nat) : Bool :=
  w.depth + enclosing ≤ depthLimit

/-! ## Meaning -/

mutual

/-- The canonical value that is written; `none` if a number is too great, or if the escapes of a
text literal form no characters. -/
def value? : Written → Option Json
  | null => some .null
  | bool b => some (.bool b)
  | number n => n.map .number
  | text s => s.map .text
  | array items => (values? items).map .array
  | object fields => (entries? fields).map fun es => .object (Entries.ofSettings es)

/-- The values of the items of an array. -/
def values? : List Written → Option (List Json)
  | [] => some []
  | w :: ws => do some ((← value? w) :: (← values? ws))

/-- The keys and values of the fields of an object. -/
def entries? : List (Option String × Written) → Option (List (String × Json))
  | [] => some []
  | (k, w) :: fs => do some ((← k, ← value? w) :: (← entries? fs))

end

mutual

/-- The way in which a value is written, every field in its place. -/
def ofJson : Json → Written
  | .null => null
  | .bool b => bool b
  | .number n => number (some n)
  | .text s => text (some s)
  | .array items => array (ofItems items)
  | .object fields => object (ofFields fields)

/-- `ofJson` for each item of an array. -/
def ofItems : List Json → List Written
  | [] => []
  | v :: vs => ofJson v :: ofItems vs

/-- `ofJson` for each field of an object. -/
def ofFields : List (String × Json) → List (Option String × Written)
  | [] => []
  | (k, v) :: fs => (some k, ofJson v) :: ofFields fs

end

end Written

end Provenance.Json
