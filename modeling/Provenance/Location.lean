import Provenance.Text.Blank

/-!
# Storage locations

A *location* says where data is stored: a scheme, an authority that may be absent, and a path.  It
is written `scheme://authority/path`, or `scheme:/path` without an authority.

The scheme may itself contain colons, as in `jdbc:postgresql://host/db`, so a text is split at its
first `://` if there is one in front of every slash, and at its first colon otherwise.  A text with
neither is a *bare path*, which is a location only against a default filesystem.
-/

namespace Provenance

open Text

/-- A storage location. -/
structure Location where
  scheme : String
  authority : Option String
  path : String
  deriving Repr, DecidableEq

namespace Location

/-! ## Defects -/

/-- What is wrong with the text of a location. -/
inductive Fault where
  /-- There is nothing but blanks. -/
  | empty
  /-- No colon ends a scheme. -/
  | missingScheme
  /-- The scheme is not a letter followed by letters, digits, `+`, `-`, `.` and `:`. -/
  | invalidScheme
  /-- The path does not begin with a slash. -/
  | relativePath
  /-- There is a blank in the authority. -/
  | blankInAuthority
  /-- A source of configurations reports a defect in words of its own. -/
  | reported (reason : String)
  deriving Repr, DecidableEq

/-- The wording of a defect. -/
def Fault.message : Fault → String
  | empty => "empty location"
  | missingScheme => "missing scheme"
  | invalidScheme => "invalid scheme"
  | relativePath => "path must be absolute"
  | blankInAuthority => "whitespace in authority"
  | reported reason => reason

/-- A text that is not a location, and why. -/
structure Malformed where
  raw : String
  fault : Fault
  deriving Repr, DecidableEq

/-- The wording of a malformed location. -/
def Malformed.message (e : Malformed) : String :=
  "malformed location '" ++ e.raw ++ "': " ++ e.fault.message

/-! ## Parsing -/

/-- Split a text in front of the slashes of its first `://`, leaving out the colon. -/
def splitMarker? : List Char → Option (List Char × List Char)
  | [] => none
  | c :: cs =>
    if c = ':' ∧ ['/', '/'].isPrefixOf cs then some ([], cs)
    else (splitMarker? cs).map fun (before, after) => (c :: before, after)

/-- Split a text at its first colon, unless it begins with one. -/
def splitColon? (cs : List Char) : Option (List Char × List Char) :=
  match cs.span (· ≠ ':') with
  | (c :: scheme, _ :: rest) => some (c :: scheme, rest)
  | _ => none

/-- Split a text into its scheme and the rest.  A colon behind a slash belongs to the path. -/
def splitScheme? (cs : List Char) : Option (List Char × List Char) :=
  let plain := (splitColon? cs).filter fun (scheme, _) => !scheme.contains '/'
  match splitMarker? cs with
  | some (scheme, rest) => if scheme.contains '/' then plain else some (scheme, rest)
  | none => plain

/-- Whether a character can occur in a scheme behind its first one. -/
def isSchemeChar (c : Char) : Bool :=
  c.isAlphanum || c == '+' || c == '-' || c == '.' || c == ':'

/-- Whether a text can be a scheme. -/
def isScheme : List Char → Bool
  | [] => false
  | c :: cs => c.isAlpha && cs.all isSchemeChar

/-- Split what follows the colon of the scheme into authority and path. -/
def splitAuthority : List Char → List Char × List Char
  | '/' :: '/' :: rest => rest.span (· ≠ '/')
  | rest => ([], rest)

/-- The location with the given scheme and whatever follows its colon. -/
def ofParts (scheme rest : List Char) : Except Fault Location :=
  let (authority, path) := splitAuthority rest
  if path ≠ [] ∧ path.head? ≠ some '/' then .error .relativePath
  else if authority.any isBlank then .error .blankInAuthority
  else .ok {
    scheme := String.ofList (scheme.map Char.toLower)
    authority := if authority.isEmpty then none else some (String.ofList authority)
    path := String.ofList path }

/-- The location that a trimmed text spells. -/
def ofTrimmed (cs : List Char) : Except Fault Location :=
  if cs.isEmpty then .error .empty
  else match splitScheme? cs with
    | none => .error .missingScheme
    | some (scheme, rest) =>
      if isScheme scheme then ofParts scheme rest else .error .invalidScheme

/-- The location that a text spells with a scheme of its own; blanks around it do not count. -/
def parse (raw : String) : Except Malformed Location :=
  (ofTrimmed (trimChars raw.toList)).mapError fun fault => ⟨raw, fault⟩

/-! ## Resolving -/

/-- The path that a bare path names under the path of a default filesystem. -/
def qualifyPath (base cs : List Char) : List Char :=
  if cs.head? = some '/' then cs else dropTrailing (· == '/') base ++ '/' :: cs

/-- The location that a text spells, a bare path taken on a default filesystem. -/
def resolve (raw : String) (defaultFs : Location) : Except Malformed Location :=
  let cs := trimChars raw.toList
  if cs.isEmpty then .error ⟨raw, .empty⟩
  else if (splitScheme? cs).isSome then parse (String.ofList cs)
  else .ok { defaultFs with path := String.ofList (qualifyPath defaultFs.path.toList cs) }

/-! ## Writing -/

/-- The location as text. -/
def toText (l : Location) : String :=
  l.scheme ++ "://" ++ l.authority.getD "" ++ l.path

instance : ToString Location := ⟨toText⟩

end Location

end Provenance
