import Provenance.Configuration.DirectoryList
import Provenance.Graph.Flatten
import Provenance.Notice

/-!
# Resolving storage

The *resolver* finds the locations that a job reads and writes in the configurations of its nodes.
A bound node reads the directories that its interface's input key lists.  It writes to the
directory under the legacy output key, or else under the modern one, whichever interface it is
bound through.  Bare paths are taken on the default filesystem.

A defect never stops the search: the part of the node's storage that it concerns is skipped with a
warning.  A configuration that cannot be loaded concerns both parts, and one malformed directory
all inputs of its node.
-/

namespace Provenance

/-- What resolving has to do with a part of a node's storage. -/
inductive Resolver.Stage where
  | configuration
  | input
  | output
  deriving Repr, DecidableEq

/-- The name of a stage. -/
def Resolver.Stage.name : Stage → String
  | configuration => "configuration"
  | input => "input"
  | output => "output"

/-- A part of a node's storage that is skipped. -/
structure Resolver.Skipped where
  node : String
  operation : String
  interface : Configuration.Interface
  stage : Stage
  error : ResolutionError
  deriving DecidableEq

/-- The notice of a skipped part. -/
def Resolver.Skipped.notice (s : Skipped) : Notice where
  message := "could not resolve storage location; skipping"
  fields := [
    ("node", s.node), ("operation", s.operation), ("binding", s.interface.name),
    ("stage", s.stage.name), ("error", s.error.message)]

/-- What an attempt to resolve a part of a node's storage comes to. -/
inductive Resolver.Attempt (α : Type) where
  /-- The node has no such part. -/
  | nothing
  /-- The part is resolved. -/
  | found (value : α)
  /-- The part is skipped. -/
  | skipped (s : Skipped)

namespace Resolver.Attempt

/-- What was found. -/
def value? : Attempt α → Option α
  | found value => some value
  | _ => none

/-- What was skipped. -/
def skip? : Attempt α → Option Skipped
  | skipped s => some s
  | _ => none

end Resolver.Attempt

/-- A way to find locations: it knows on which filesystem a bare path is taken. -/
structure Resolver where
  defaultFs : Location
  deriving DecidableEq

namespace Resolver

/-! ## One node -/

/-- What is found of a node's storage. -/
structure Findings where
  inputs : List Location
  output : Option Location
  skips : List Skipped

/-- The input locations in a node's configuration. -/
def inputsIn (r : Resolver) (n : Node) (i : Configuration.Interface) (c : Configuration) :
    Attempt (List Location) :=
  match ((c.get? i.inputKey).map DirectoryList.split).getD [] with
  | [] => .nothing
  | directories =>
    match directories.mapM (Location.resolve · r.defaultFs) with
    | .ok locations => .found locations
    | .error e => .skipped ⟨n.id, n.operation, i, .input, .malformed e⟩

/-- The output location in a node's configuration. -/
def outputIn (r : Resolver) (n : Node) (i : Configuration.Interface) (c : Configuration) :
    Attempt Location :=
  match (c.get? Configuration.legacyOutputKey).or (c.get? Configuration.modernOutputKey) with
  | none => .nothing
  | some raw =>
    match Location.resolve raw r.defaultFs with
    | .ok location => .found location
    | .error e => .skipped ⟨n.id, n.operation, i, .output, .malformed e⟩

/-- Load the configuration of a node, after `earlier` loads of its source, and look into it. -/
def lookInto (n : Node) (earlier : Nat)
    (look : Configuration.Interface → Configuration → Attempt α) : Attempt α :=
  match n.binding with
  | none => .nothing
  | some b =>
    match b.source.load earlier with
    | .error e => .skipped ⟨n.id, n.operation, b.interface, .configuration, e⟩
    | .ok c => look b.interface c

/-- The input locations of a node. -/
def inputs (r : Resolver) (n : Node) (earlier : Nat) : Attempt (List Location) :=
  lookInto n earlier (r.inputsIn n)

/-- The output location of a node. -/
def output (r : Resolver) (n : Node) (earlier : Nat) : Attempt Location :=
  lookInto n earlier (r.outputIn n)

/-- Both directions of a node's storage, found in one load of its configuration. -/
def resolve (r : Resolver) (n : Node) (earlier : Nat) : Findings :=
  match n.binding with
  | none => ⟨[], none, []⟩
  | some b =>
    match b.source.load earlier with
    | .error e => ⟨[], none, [⟨n.id, n.operation, b.interface, .configuration, e⟩]⟩
    | .ok c =>
      let inputs := r.inputsIn n b.interface c
      let output := r.outputIn n b.interface c
      ⟨inputs.value?.getD [], output.value?, inputs.skip?.toList ++ output.skip?.toList⟩

/-! ## Many nodes -/

/-- What is found of the storage of several nodes, and which configurations were loaded for it, in
their order. -/
structure Survey (g : Graph) where
  inputs : List Location
  outputs : List Location
  skips : List Skipped
  loads : List g.Vertex

/-- The storage of several nodes in their order, after the loads that went `before`.  A load for a
node counts for all nodes that hold the same source. -/
def survey (r : Resolver) (g : Graph) (before : List g.Vertex) :
    (nodes : List g.Vertex) → Survey g
  | [] => ⟨[], [], [], []⟩
  | v :: nodes =>
    if (g.node v).binding.isNone then r.survey g before nodes
    else
      let found := r.resolve (g.node v) (g.loadCount before v)
      let rest := r.survey g (before ++ [v]) nodes
      { inputs := found.inputs ++ rest.inputs
        outputs := found.output.toList ++ rest.outputs
        skips := found.skips ++ rest.skips
        loads := v :: rest.loads }

end Resolver

end Provenance
