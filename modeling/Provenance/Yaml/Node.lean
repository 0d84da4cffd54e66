import Provenance.Yaml.Token

/-!
# Nodes of a document

The tokens of a document spell a tree of scalars, sequences and mappings, with aliases that refer
to anchored nodes elsewhere in the tree.  Where a node is missing, an empty plain scalar stands.

The parser goes down the tree.  Each of its functions reads what its name says from the start of
the tokens and returns it with the tokens that follow.  A limit on their nesting, far beyond what
any reader of a document goes to, bounds the nodes; within one collection the tokens do.
-/

namespace Provenance.Yaml

/-- A node of a document. -/
inductive Node where
  | reference (name : List Char)
  | scalar (anchor : Option (List Char)) (tag : Option (List Char)) (text : List Char)
      (style : Style)
  | sequence (anchor : Option (List Char)) (tag : Option (List Char)) (items : List Node)
  | mapping (anchor : Option (List Char)) (tag : Option (List Char)) (fields : List (Node × Node))
  deriving Inhabited

namespace Node

/-- The node that stands where none is written. -/
def missing : Node :=
  .scalar none none [] .plain

/-- The lead of tags by their handle. -/
abbrev Handles := List (List Char × List Char)

/-- The handles that need no directive. -/
def standardHandles : Handles := [
  (['!'], ['!']),
  (['!', '!'], "tag:yaml.org,2002:".toList)]

/-- The tag that is written; `none` if its handle has no meaning. -/
def resolveTag? (handles : Handles) (t : WrittenTag) : Option (List Char) :=
  if t.handle.isEmpty then some t.suffix
  else (handles.lookup t.handle).map (· ++ t.suffix)

/-- What may stand in front of a node. -/
structure Properties where
  anchor : Option (List Char)
  tag : Option (List Char)

/-- Whether nothing stands in front of a node. -/
def Properties.isEmpty (p : Properties) : Bool :=
  p.anchor.isNone && p.tag.isNone

/-- The anchor and the tag in front of a node, in either order. -/
def takeProperties (handles : Handles) : List Token → Option (Properties × List Token)
  | .anchor name :: .tag t :: ts => do some (⟨some name, some (← resolveTag? handles t)⟩, ts)
  | .tag t :: .anchor name :: ts => do some (⟨some name, some (← resolveTag? handles t)⟩, ts)
  | .anchor name :: ts => some (⟨some name, none⟩, ts)
  | .tag t :: ts => do some (⟨none, some (← resolveTag? handles t)⟩, ts)
  | ts => some (⟨none, none⟩, ts)

/-- Whether the tokens begin with one of a list of tokens. -/
def nextIs (stops : List Token) (ts : List Token) : Bool :=
  ts.head?.any stops.contains

/-! ## Collections

The functions below take the reader of their nodes as an argument; `limit` is at least the number
of tokens. -/

/-- A node, or the missing one in front of one of the given tokens. -/
def nodeUnless (stops : List Token) (node : List Token → Option (Node × List Token))
    (ts : List Token) : Option (Node × List Token) :=
  if nextIs stops ts then some (missing, ts) else node ts

/-- The entries of a block sequence that is indented. -/
def blockSequence (node : List Token → Option (Node × List Token)) :
    (limit : Nat) → List Token → Option (List Node × List Token)
  | limit + 1, .blockEntry :: ts => do
    let (item, ts) ← nodeUnless [.blockEntry, .blockEnd] node ts
    let (items, ts) ← blockSequence node limit ts
    some (item :: items, ts)
  | _, .blockEnd :: ts => some ([], ts)
  | _, _ => none

/-- The entries of a block sequence that is not indented farther than the key in front of it. -/
def indentlessSequence (node : List Token → Option (Node × List Token)) :
    (limit : Nat) → List Token → Option (List Node × List Token)
  | limit + 1, .blockEntry :: ts => do
    let (item, ts) ← nodeUnless [.blockEntry, .key, .value, .blockEnd] node ts
    let (items, ts) ← indentlessSequence node limit ts
    some (item :: items, ts)
  | _, ts => some ([], ts)

/-- The value behind a key, or the missing node. -/
def valueAfter (stops : List Token) (node : List Token → Option (Node × List Token)) :
    List Token → Option (Node × List Token)
  | .value :: ts => nodeUnless stops node ts
  | ts => some (missing, ts)

/-- The fields of a block mapping. -/
def blockMapping (node : List Token → Option (Node × List Token)) :
    (limit : Nat) → List Token → Option (List (Node × Node) × List Token)
  | limit + 1, .key :: ts => do
    let stops := [.key, .value, .blockEnd]
    let (k, ts) ← nodeUnless stops node ts
    let (v, ts) ← valueAfter stops node ts
    let (fields, ts) ← blockMapping node limit ts
    some ((k, v) :: fields, ts)
  | _, .blockEnd :: ts => some ([], ts)
  | _, _ => none

/-- An entry of a flow sequence: a node, or a mapping with a single field. -/
def flowSequenceEntry (node : List Token → Option (Node × List Token)) :
    List Token → Option (Node × List Token)
  | .key :: ts => do
    let stops := [.flowEntry, .flowSequenceEnd]
    let (k, ts) ← nodeUnless (.value :: stops) node ts
    let (v, ts) ← valueAfter stops node ts
    some (.mapping none none [(k, v)], ts)
  | ts => node ts

/-- The entries of a flow sequence that has begun; a comma may stand behind the last one. -/
def flowSequence (node : List Token → Option (Node × List Token)) :
    (limit : Nat) → List Token → Option (List Node × List Token)
  | _, .flowSequenceEnd :: ts => some ([], ts)
  | limit + 1, ts => do
    let (item, ts) ← flowSequenceEntry node ts
    match ts with
    | .flowEntry :: ts =>
      let (items, ts) ← flowSequence node limit ts
      some (item :: items, ts)
    | .flowSequenceEnd :: ts => some ([item], ts)
    | _ => none
  | 0, _ => none

/-- A field of a flow mapping; a node without a key token in front of it has no value. -/
def flowMappingField (node : List Token → Option (Node × List Token)) :
    List Token → Option ((Node × Node) × List Token)
  | .key :: ts => do
    let stops := [.flowEntry, .flowMappingEnd]
    let (k, ts) ← nodeUnless (.value :: stops) node ts
    let (v, ts) ← valueAfter stops node ts
    some ((k, v), ts)
  | ts => do
    let (k, ts) ← node ts
    some ((k, missing), ts)

/-- The fields of a flow mapping that has begun; a comma may stand behind the last one. -/
def flowMapping (node : List Token → Option (Node × List Token)) :
    (limit : Nat) → List Token → Option (List (Node × Node) × List Token)
  | _, .flowMappingEnd :: ts => some ([], ts)
  | limit + 1, ts => do
    let (field, ts) ← flowMappingField node ts
    match ts with
    | .flowEntry :: ts =>
      let (fields, ts) ← flowMapping node limit ts
      some (field :: fields, ts)
    | .flowMappingEnd :: ts => some ([field], ts)
    | _ => none
  | 0, _ => none

/-! ## Nodes -/

/-- Where a node stands. -/
inductive Place where
  /-- In a flow collection. -/
  | flow
  /-- In a block. -/
  | block
  /-- Behind a key or a colon of a block mapping, where a sequence need not be indented. -/
  | field
  deriving DecidableEq

/-- A node whose collections are nested at most `depth` deep. -/
def take (handles : Handles) : (depth : Nat) → Place → List Token → Option (Node × List Token)
  | 0, _, _ => none
  | _ + 1, _, .reference name :: ts => some (.reference name, ts)
  | depth + 1, place, ts => do
    let (p, ts) ← takeProperties handles ts
    let within (inner : Place) := take handles depth inner
    match ts with
    | .scalar text style :: ts => some (.scalar p.anchor p.tag text style, ts)
    | .flowSequenceStart :: ts =>
      let (items, ts) ← flowSequence (within .flow) (ts.length + 1) ts
      some (.sequence p.anchor p.tag items, ts)
    | .flowMappingStart :: ts =>
      let (fields, ts) ← flowMapping (within .flow) (ts.length + 1) ts
      some (.mapping p.anchor p.tag fields, ts)
    | .blockSequenceStart :: rest =>
      if place = .flow then empty p ts
      else
        let (items, ts) ← blockSequence (within .block) (rest.length + 1) rest
        some (.sequence p.anchor p.tag items, ts)
    | .blockMappingStart :: rest =>
      if place = .flow then empty p ts
      else
        let (fields, ts) ← blockMapping (within .field) (rest.length + 1) rest
        some (.mapping p.anchor p.tag fields, ts)
    | .blockEntry :: _ =>
      if place = .field then
        let (items, ts) ← indentlessSequence (within .block) (ts.length + 1) ts
        some (.sequence p.anchor p.tag items, ts)
      else empty p ts
    | _ => empty p ts
where
  /-- The empty scalar that properties without a node belong to. -/
  empty (p : Properties) (ts : List Token) : Option (Node × List Token) :=
    if p.isEmpty then none else some (.scalar p.anchor p.tag [] .plain, ts)

/-! ## Documents -/

/-- Collections may be nested this deep. -/
def depthLimit : Nat := 128

/-- Read the directives in front of a document, of which there may be one about the version and one
for each handle. -/
def takeDirectives (version : Bool) (handles : Handles) :
    List Token → Option (Handles × List Token)
  | .versionDirective :: ts => if version then none else takeDirectives true handles ts
  | .tagDirective handle lead :: ts =>
    if handles.any (·.1 == handle) then none
    else takeDirectives version (handles ++ [(handle, lead)]) ts
  | ts => some (handles ++ standardHandles, ts)

/-- The content of a document that has been marked. -/
def takeContent (handles : Handles) (ts : List Token) : Option (Node × List Token) :=
  match ts with
  | [] => some (missing, [])
  | .versionDirective :: _ => some (missing, ts)
  | .tagDirective _ _ :: _ => some (missing, ts)
  | .documentStart :: _ => some (missing, ts)
  | .documentEnd :: _ => some (missing, ts)
  | _ => take handles depthLimit .block ts

/-- The content of the only document of a stream, if there is one; `none` if the tokens spell no
stream, or one with more documents. -/
def ofTokens? (ts : List Token) : Option (Option Node) := do
  match ts with
  | [] => some none
  | _ =>
    let (handles, rest) ← takeDirectives false [] ts
    let directives := rest.length < ts.length
    let (n, rest) ← match rest with
      | .documentStart :: rest => takeContent handles rest
      | rest => if directives then none else take handles depthLimit .block rest
    if (rest.dropWhile (· == .documentEnd)).isEmpty then some (some n) else none

end Node

end Provenance.Yaml
