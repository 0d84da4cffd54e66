import Provenance.Yaml.Node
import Provenance.Yaml.Scanner

/-!
# The content of a document

The content of a document is its tree without anchors and aliases: in place of an alias stands the
node to which it refers.

An anchor is known by a number, which is how many names of anchors came before it in the document.
An alias takes the number of the last anchor of its name in front of it, and refers to the last
node of the whole document that has this number.  So a name that is given once means what one
expects, and after a name has been given again its number is that of the next new name as well.

The references of a document can multiply its size.  They may lead to at most a hundred times as
many nodes as there are marks in the document.
-/

namespace Provenance.Yaml

/-- The content of a document. -/
inductive Tree where
  | scalar (tag : Option String) (text : String) (plain : Bool)
  | sequence (tag : Option String) (items : List Tree)
  | mapping (tag : Option String) (fields : List (Tree × Tree))
  deriving Inhabited

namespace Node

/-! ## Anchors -/

/-- A node under its own anchor, if it has one, in front of the anchored nodes in it. -/
def anchoredIf (anchor : Option (List Char)) (n : Node) (inner : List (List Char × Node)) :
    List (List Char × Node) :=
  match anchor with
  | some name => (name, n) :: inner
  | none => inner

mutual

/-- The anchored nodes of a document, in the order in which they begin. -/
def anchored : Node → List (List Char × Node)
  | reference _ => []
  | scalar anchor tag text style => anchoredIf anchor (scalar anchor tag text style) []
  | sequence anchor tag items =>
    anchoredIf anchor (sequence anchor tag items) (anchoredItems items)
  | mapping anchor tag fields =>
    anchoredIf anchor (mapping anchor tag fields) (anchoredFields fields)

/-- The anchored nodes among the items of a sequence. -/
def anchoredItems : List Node → List (List Char × Node)
  | [] => []
  | n :: ns => anchored n ++ anchoredItems ns

/-- The anchored nodes among the fields of a mapping. -/
def anchoredFields : List (Node × Node) → List (List Char × Node)
  | [] => []
  | (k, v) :: fs => anchored k ++ (anchored v ++ anchoredFields fs)

end

mutual

/-- The number of marks in a document: one for a scalar or an alias, two for a collection. -/
def markCount : Node → Nat
  | reference _ => 1
  | scalar _ _ _ _ => 1
  | sequence _ _ items => markCountItems items + 2
  | mapping _ _ fields => markCountFields fields + 2

/-- The marks of the items of a sequence. -/
def markCountItems : List Node → Nat
  | [] => 0
  | n :: ns => markCount n + markCountItems ns

/-- The marks of the fields of a mapping. -/
def markCountFields : List (Node × Node) → Nat
  | [] => 0
  | (k, v) :: fs => markCount k + markCount v + markCountFields fs

end

/-- An anchored node. -/
structure Anchored where
  name : List Char
  number : Nat
  node : Node

/-- The anchored nodes with their numbers, given the names that came before. -/
def number (seen : List (List Char)) : List (List Char × Node) → List Anchored
  | [] => []
  | (name, node) :: rest =>
    ⟨name, seen.length, node⟩ :: number (if seen.contains name then seen else name :: seen) rest

/-- The node to which an alias refers behind the first `begun` anchors, and how many anchors begin
in front of that node. -/
def target? (anchors : List Anchored) (begun : Nat) (name : List Char) : Option (Node × Nat) := do
  let a ← (anchors.take begun).reverse.find? (·.name == name)
  let (b, position) ← anchors.zipIdx.reverse.find? (·.1.number == a.number)
  some (b.node, position)

/-! ## References -/

/-- What a walk through a document keeps account of. -/
structure Walk where
  /-- How many anchors have begun. -/
  begun : Nat
  /-- How many references may still be followed. -/
  references : Nat

/-- Begin a node, which may have an anchor. -/
def Walk.begin (w : Walk) (anchor : Option (List Char)) : Walk :=
  if anchor.isSome then { w with begun := w.begun + 1 } else w

/-- Go through a list of parts, handing on the account. -/
def walkAll (f : α → Walk → Option (β × Walk)) : List α → Walk → Option (List β × Walk)
  | [], w => some ([], w)
  | a :: as, w => do
    let (b, w) ← f a w
    let (bs, w) ← walkAll f as w
    some (b :: bs, w)

/-- The content of a node that is no alias, given how to find that of the nodes in it. -/
def contentOf (inner : Node → Walk → Option (Tree × Walk)) (n : Node) (w : Walk) :
    Option (Tree × Walk) :=
  match n with
  | reference _ => none
  | scalar anchor tag text style =>
    some (.scalar (tag.map String.ofList) (String.ofList text) (style == .plain), w.begin anchor)
  | sequence anchor tag items => do
    let (items, w) ← walkAll inner items (w.begin anchor)
    some (.sequence (tag.map String.ofList) items, w)
  | mapping anchor tag fields => do
    let (fields, w) ← walkAll (fun (k, v) w => do
      let (k, w) ← inner k w
      let (v, w) ← inner v w
      some ((k, v), w)) fields (w.begin anchor)
    some (.mapping (tag.map String.ofList) fields, w)

/-- The content of a node whose collections are nested at most `depth` deep, references
included. -/
def content (anchors : List Anchored) : (depth : Nat) → Node → Walk → Option (Tree × Walk)
  | 0, _, _ => none
  | depth + 1, reference name, w => do
    let (target, position) ← target? anchors w.begun name
    if w.references = 0 then none
    let (tree, after) ← contentOf (content anchors depth) target ⟨position, w.references - 1⟩
    some (tree, { w with references := after.references })
  | depth + 1, n, w => contentOf (content anchors depth) n w

/-- The content of a document. -/
def toTree? (n : Node) : Option Tree :=
  let anchors := number [] n.anchored
  (content anchors (depthLimit + 1) n ⟨0, 100 * n.markCount⟩).map (·.1)

end Node

/-- The content of the only document of a stream; a stream without documents has the content of an
empty one. -/
def read? (s : String) : Option Tree := do
  let n ← Node.ofTokens? (← tokens? s)
  (n.getD Node.missing).toTree?

end Provenance.Yaml
