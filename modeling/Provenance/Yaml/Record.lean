import Provenance.Yaml.Core
import Provenance.Yaml.Tree

/-!
# Records in YAML

A record is a mapping with named fields, in any order and each of them at most once; other keys are
refused.  Nothing at all stands for a record without fields, and also for an empty list.

Where a text is expected, every scalar gives its text, whatever it looks like and whatever its tag.
Where anything may stand, a scalar is a text only if it does not stand for something else.  A tag
that begins with an exclamation mark makes a value one that only the document knows; but if its
octets encode no text, the value is read as if it had no such tag.
-/

namespace Provenance.Yaml.Tree

/-- Whether nothing is written. -/
def isBlank : Tree → Bool
  | scalar _ text plain => plain && text.isEmpty
  | _ => false

/-- The text of a scalar. -/
def text? : Tree → Option String
  | scalar _ text _ => some text
  | _ => none

/-- The items of a sequence. -/
def items? : Tree → Option (List Tree)
  | sequence _ items => some items
  | t => if t.isBlank then some [] else none

/-- The list that a sequence spells, each item read by `f`. -/
def list? (f : Tree → Option α) (t : Tree) : Option (List α) := do
  (← t.items?).mapM f

/-- The slots of a record with the given fields, each of them empty if the field is missing. -/
def slots? (names : List String) (t : Tree) : Option (List (Option Tree)) := do
  let fields ← match t with
    | mapping _ fields => some fields
    | t => if t.isBlank then some [] else none
  let fields ← fields.mapM fun (k, v) => do some (← k.text?, v)
  if fields.all fun f => names.contains f.1 then
    names.mapM fun name =>
      match fields.filter (·.1 == name) with
      | [] => some none
      | [(_, v)] => some (some v)
      | _ => none
  else none

/-- A value with a default for a field that is missing. -/
def orElse? (f : Tree → Option α) (default : α) : Option Tree → Option α
  | none => some default
  | some t => f t

/-- The tag of the value that stands for nothing. -/
def nothingTag : String := "tag:yaml.org,2002:null"

/-- Whether a value stands for nothing; `none` if it is tagged so and does not. -/
def isNothing? : Tree → Option Bool
  | scalar tag text true =>
    match tag with
    | none => some (text.isEmpty || Meaning.nothings.contains text)
    | some tag =>
      if tag ≠ nothingTag then some false
      else if Meaning.nothings.contains text then some true
      else none
  | _ => some false

/-- A value that may be absent: missing, or standing for nothing. -/
def optional? (f : Tree → Option α) : Option Tree → Option (Option α)
  | none => some none
  | some t => do if ← t.isNothing? then some none else (f t).map some

/-! ## Where anything may stand -/

/-- Whether a tag begins with an exclamation mark. -/
def isMarked (tag : String) : Bool :=
  tag.toList.head? == some '!'

/-- Whether the octets of a tag, which are kept as characters, are the encoding of a text. -/
def encodesText (tag : String) : Bool :=
  ByteArray.validateUTF8 ⟨(tag.toList.map fun c => UInt8.ofNat c.toNat).toArray⟩

/-- Whether a tag belongs to the document alone. -/
def isLocalTag (tag : String) : Bool :=
  isMarked tag && encodesText tag

/-- Whether a tag says nothing: it looks like one of the document alone, but is no text. -/
def isVoidTag (tag : String) : Bool :=
  isMarked tag && !encodesText tag

/-- The tags of values that are no texts. -/
def otherTags : List String := [
  nothingTag, "tag:yaml.org,2002:bool", "tag:yaml.org,2002:int", "tag:yaml.org,2002:float"]

/-- Whether a value has no tag of the document's own. -/
def isUntagged : Tree → Bool
  | scalar tag _ _ => !tag.any isLocalTag
  | sequence tag _ => !tag.any isLocalTag
  | mapping tag _ => !tag.any isLocalTag

/-- The text that a scalar stands for. -/
def string? : Tree → Option String
  | scalar tag text plain =>
    if tag.any fun tag => otherTags.contains tag || isLocalTag tag then none
    else if plain && tag.all isVoidTag && Meaning.of text != .text then none
    else some text
  | _ => none

/-- The natural number that a scalar stands for. -/
def natural? : Tree → Option Nat
  | scalar tag text plain =>
    if (plain && tag.all isVoidTag) || tag == some "tag:yaml.org,2002:int" then
      match Meaning.of text with
      | .integer i => if 0 ≤ i && text.toList.head? != some '-' then some i.toNat else none
      | _ => none
    else none
  | _ => none

/-- The settings that a mapping of texts spells. -/
def settings? : Tree → Option (List (String × String))
  | mapping tag fields =>
    if (mapping tag fields).isUntagged then
      fields.mapM fun (k, v) => do some (← k.string?, ← v.string?)
    else none
  | _ => none

end Provenance.Yaml.Tree
