import Provenance.Graph

/-!
# Job plans

A *plan* describes a job in a file: its nodes with their ids, operations, dependencies and storage,
and the id of the final node.  Ids are what ties a plan together, so a plan describes a graph only
if no id is given twice, every id that is mentioned is one of them, and no node depends on itself.
`Plan.Fault` says which of these fails.
-/

namespace Provenance.Plan

/-- The storage of a node, with the properties of its configuration written out. -/
structure Storage where
  interface : Configuration.Interface
  properties : Configuration
  deriving DecidableEq

/-- A node of a plan. -/
structure Item where
  id : String
  operation : String
  dependencies : List String
  storage : Option Storage
  deriving DecidableEq

/-- What a node does if the plan does not say it. -/
def defaultOperation : String := "transform"

end Plan

/-- The description of a job. -/
structure Plan where
  appName : Option String
  root : String
  items : List Plan.Item
  deriving DecidableEq

namespace Plan

/-- Why a plan does not describe a graph. -/
inductive Fault where
  /-- Two nodes have the same id. -/
  | repeatedId (id : String)
  /-- A node depends on an id that no node has. -/
  | unknownDependency (node missing : String)
  /-- No node has the id of the final node. -/
  | unknownRoot (root : String)
  /-- A node depends on itself. -/
  | cycle (id : String)
  /-- A node was to be built in front of one on which it depends. -/
  | unbuiltDependency (node : String)
  /-- The final node was not built. -/
  | unbuiltRoot (root : String)
  deriving Repr, DecidableEq

/-- The wording of a fault. -/
def Fault.message : Fault → String
  | repeatedId id => "duplicate node id '" ++ id ++ "'"
  | unknownDependency node missing =>
    "node '" ++ node ++ "' depends on unknown node '" ++ missing ++ "'"
  | unknownRoot root => "root '" ++ root ++ "' is not a node"
  | cycle id => "dependency cycle through '" ++ id ++ "'"
  | unbuiltDependency node => "node '" ++ node ++ "' was built too early"
  | unbuiltRoot root => "root '" ++ root ++ "' was not built"

end Plan

end Provenance
