import Provenance.Json.Token

/-!
# Reading JSON

The tokens of a JSON text are read from left to right with a stack of the arrays and objects that
are still open, so no nesting is too deep to be read.  After each token the reader is in one of
five states, which say what may come next.
-/

namespace Provenance.Json

/-- An array or an object that is still open, its finished parts in reverse order. -/
inductive Frame where
  | array (items : List Written)
  | object (fields : List (Option String × Written)) (key : Option String)

/-- What has just been read, inside of which open arrays and objects. -/
inductive ReaderState where
  /-- A value must follow. -/
  | value (stack : List Frame)
  /-- An array has been opened. -/
  | opened (stack : List Frame)
  /-- A value has ended. -/
  | ended (value : Written) (stack : List Frame)
  /-- Inside an object a key must follow, or its end if it has just been opened. -/
  | key (fields : List (Option String × Written)) (opened : Bool) (stack : List Frame)
  /-- A colon must follow a key. -/
  | colon (fields : List (Option String × Written)) (key : Option String) (stack : List Frame)

namespace ReaderState

/-- Read a token where a value must begin. -/
def beginValue (stack : List Frame) : Token → Option ReaderState
  | .atom w => some (ended w stack)
  | .text s => some (ended (.text s) stack)
  | .openArray => some (opened stack)
  | .openObject => some (key [] true stack)
  | _ => none

/-- Read one token. -/
def step : ReaderState → Token → Option ReaderState
  | value stack, t => beginValue stack t
  | opened stack, .closeArray => some (ended (.array []) stack)
  | opened stack, t => beginValue (.array [] :: stack) t
  | ended w (.array items :: stack), .comma => some (value (.array (w :: items) :: stack))
  | ended w (.array items :: stack), .closeArray =>
    some (ended (.array (w :: items).reverse) stack)
  | ended w (.object fields k :: stack), .comma => some (key ((k, w) :: fields) false stack)
  | ended w (.object fields k :: stack), .closeObject =>
    some (ended (.object ((k, w) :: fields).reverse) stack)
  | key fields _ stack, .text s => some (colon fields s stack)
  | key _ true stack, .closeObject => some (ended (.object []) stack)
  | colon fields k stack, .colon => some (value (.object fields k :: stack))
  | _, _ => none

end ReaderState

/-- The value that a sequence of tokens spells, all of them used. -/
def ofTokens? (ts : List Token) : Option Written := do
  match ← ts.foldlM ReaderState.step (.value []) with
  | .ended w [] => some w
  | _ => none

/-- What a JSON text says. -/
def Written.read? (s : String) : Option Written := do
  ofTokens? (← tokens? s.toList)

/-- The canonical value of a JSON text that is data as a whole. -/
def read? (s : String) : Option Json := do
  let w ← Written.read? s
  if w.fitsWithin 0 then w.value? else none

end Provenance.Json
