import Provenance.Yaml.Cursor
import Provenance.Yaml.Scalar.Quoted
import Provenance.Yaml.Token

/-!
# Tags, anchors and directives

The parts of a stream that are written as words: the names of anchors, the tags of nodes and the
directives in front of a document.  Each function takes a word from the start of a text and returns
it with the rest.

The characters of a tag are ASCII, but any octet can be written in it as a percent sign and two
digits; an octet is kept as the character with its number.  An octet zero ends the tag, whatever is
written behind it.
-/

namespace Provenance.Yaml

/-- Whether a text has ended, or goes on with a blank or an indicator that may follow an anchor. -/
def endsAnchor : List Char → Bool
  | [] => true
  | c :: _ => isBlank c || "?:,]\x7d%@\x60".toList.contains c

/-- The name behind the mark of an anchor or alias. -/
def takeAnchorName (cs : List Char) : Option (List Char × List Char) :=
  let (name, rest) := cs.span isWordChar
  if name.isEmpty || !endsAnchor rest then none else some (name, rest)

namespace WrittenTag

/-! ## Parts of tags -/

/-- Whether a character can stand in a tag; in a tag that is written out, or in front of the tags
of a directive, commas and brackets can as well. -/
def isTagChar (writtenOut : Bool) (c : Char) : Bool :=
  isWordChar c || ";/?:@&=+$.!~*'()".toList.contains c ||
    (writtenOut && (c == ',' || c == '[' || c == ']'))

/-- How many octets the character has that begins with an octet. -/
def octetCount? (first : Nat) : Option Nat :=
  if first < 0x80 then some 1
  else if first < 0xC0 then none
  else if first < 0xE0 then some 2
  else if first < 0xF0 then some 3
  else if first < 0xF8 then some 4
  else none

/-- The octet that a percent sign and two digits stand for. -/
def octet? : List Char → Option (Nat × List Char)
  | '%' :: a :: b :: cs => do
    some ((← Quoted.hexValue? a) * 16 + (← Quoted.hexValue? b), cs)
  | _ => none

/-- Take octets that go on a character. -/
def takeOctets : (count : Nat) → List Char → Option (List Char × List Char)
  | 0, cs => some ([], cs)
  | count + 1, cs => do
    let (octet, rest) ← octet? cs
    if octet < 0x80 ∨ 0xC0 ≤ octet then none
    let (octets, rest) ← takeOctets count rest
    some (Char.ofNat octet :: octets, rest)

/-- Take the character of a tag at the start of a text, as a list of octets if it is escaped;
`none` if an escape is ill formed, an empty list if no such character is there. -/
def takeTagChar (writtenOut : Bool) (cs : List Char) : Option (List Char × List Char) :=
  match cs with
  | [] => some ([], [])
  | c :: rest =>
    if c = '%' then do
      let (first, rest) ← octet? cs
      let count ← octetCount? first
      let (octets, rest) ← takeOctets (count - 1) rest
      some (Char.ofNat first :: octets, rest)
    else if isTagChar writtenOut c then some ([c], rest)
    else some ([], cs)

/-- Take characters of a tag, at most `limit` of them. -/
def takeTagChars (writtenOut : Bool) : (limit : Nat) → List Char → Option (List Char × List Char)
  | 0, cs => some ([], cs)
  | limit + 1, cs => do
    let (c, rest) ← takeTagChar writtenOut cs
    if c.isEmpty then some ([], cs)
    else
      let (more, rest) ← takeTagChars writtenOut limit rest
      some (c ++ more, rest)

/-- Take as many characters of a tag as there are. -/
def takeSuffix (writtenOut : Bool) (cs : List Char) : Option (List Char × List Char) :=
  takeTagChars writtenOut cs.length cs

/-- The characters of a tag in front of an octet zero. -/
def untilZero (cs : List Char) : List Char :=
  cs.takeWhile (· != '\x00')

/-- Take a handle: an exclamation mark, or a name between two of them.  What looks like a name may
turn out to have no second mark. -/
def takeHandle (cs : List Char) : Option (List Char × List Char) :=
  match cs with
  | '!' :: cs =>
    let (name, rest) := cs.span isWordChar
    match rest with
    | '!' :: rest => some ('!' :: name ++ ['!'], rest)
    | _ => some ('!' :: name, rest)
  | _ => none

/-- Whether what has been taken is a handle with two marks. -/
def isNamedHandle (handle : List Char) : Bool :=
  1 < handle.length && handle.getLast? == some '!'

/-! ## Tags -/

/-- Take a tag: written out between angle brackets, behind a handle, or behind a mark of its own. -/
def take (cs : List Char) : Option (WrittenTag × List Char) :=
  match cs with
  | '!' :: '<' :: cs => do
    let (suffix, rest) ← takeSuffix true cs
    match rest with
    | '>' :: rest => if suffix.isEmpty then none else some (⟨[], untilZero suffix⟩, rest)
    | _ => none
  | cs => do
    let (handle, rest) ← takeHandle cs
    let (suffix, rest) ← takeSuffix false rest
    if isNamedHandle handle then
      if suffix.isEmpty then none else some (⟨handle, untilZero suffix⟩, rest)
    else
      let suffix := untilZero (handle.drop 1 ++ suffix)
      if suffix.isEmpty then some (⟨[], ['!']⟩, rest) else some (⟨['!'], suffix⟩, rest)

end WrittenTag

/-! ## Directives -/

/-- A number of at most nine digits. -/
def takeVersionNumber (cs : List Char) : Option (Nat × List Char) :=
  let (digits, rest) := cs.span (·.isDigit)
  if digits.isEmpty ∨ 9 < digits.length then none
  else some (digits.foldl (fun n c => n * 10 + (c.toNat - '0'.toNat)) 0, rest)

/-- The version directive behind its name; the versions 1.1 and 1.2 are understood. -/
def takeVersion (cs : List Char) : Option (Token × List Char) := do
  let (major, rest) ← takeVersionNumber (cs.dropWhile isBlank)
  match rest with
  | '.' :: rest =>
    let (minor, rest) ← takeVersionNumber rest
    if major = 1 ∧ (minor = 1 ∨ minor = 2) then some (.versionDirective, rest) else none
  | _ => none

/-- The tag directive behind its name. -/
def takeTagDirective (cs : List Char) : Option (Token × List Char) := do
  let (handle, rest) ← WrittenTag.takeHandle (cs.dropWhile isBlank)
  if !(handle = ['!'] || WrittenTag.isNamedHandle handle) then none
  if !rest.head?.any isBlank then none
  let (lead, rest) ← WrittenTag.takeSuffix true (rest.dropWhile isBlank)
  if lead.isEmpty || !endsWord rest then none
  else some (.tagDirective handle (WrittenTag.untilZero lead), rest)

/-- The directive behind the percent sign, which fills the line but for a comment. -/
def directive? (cs : List Char) : Option Token := do
  let (name, rest) := cs.span isWordChar
  if !endsWord rest then none
  let (token, rest) ←
    if name = "YAML".toList then takeVersion rest
    else if name = "TAG".toList then takeTagDirective rest
    else none
  let rest := rest.dropWhile isBlank
  if rest.isEmpty ∨ rest.head? = some '#' then some token else none

end Provenance.Yaml
