import Provenance.Json.Record
import Provenance.Plan
import Provenance.Yaml.Record

/-!
# Reading plans

A plan is read from YAML or from JSON.  A plan and its parts are closed records: a key that they do
not declare is an error.  A node needs nothing but an id; the name of the application may be null,
and so may the storage of a node.

In YAML every scalar is a text where a plan expects one.  Only the storage of a node is read more
strictly: its properties have to be texts already, so that a number is not taken for one.
-/

namespace Provenance

open Json (Written)

/-- The interface with a name. -/
def Configuration.Interface.ofName? (name : String) : Option Configuration.Interface :=
  [legacy, modern].find? (·.name == name)

namespace Plan

/-! ## From JSON -/

/-- The storage that a record spells. -/
def Storage.ofWritten? (w : Written) : Option Storage := do
  let [some kind, some properties] ← w.slots? ["kind", "properties"] true | none
  some ⟨← kind.text? >>= Configuration.Interface.ofName?, ← Configuration.ofWritten? properties⟩

/-- The node that a record spells. -/
def Item.ofWritten? (w : Written) : Option Item := do
  let [some id, operation, dependencies, storage] ←
    w.slots? ["id", "operation", "dependencies", "binding"] true | none
  some {
    id := ← id.text?
    operation := ← Written.orElse? Written.text? defaultOperation operation
    dependencies := ← Written.orElse? (Written.list? Written.text?) [] dependencies
    storage := ← Written.optional? Storage.ofWritten? storage }

end Plan

/-- The plan that a record spells. -/
def Plan.ofWritten? (w : Written) : Option Plan := do
  let [appName, some root, some items] ← w.slots? ["app_name", "root", "nodes"] true | none
  some {
    appName := ← Written.optional? Written.text? appName
    root := ← root.text?
    items := ← items.list? Item.ofWritten? }

/-! ## From YAML -/

namespace Plan

open Yaml (Tree)

/-- Whether a key names the properties of storage: by their name, or by the number zero. -/
def Storage.isPropertiesKey (k : Tree) : Bool :=
  k.string? == some "properties" || k.natural? == some 0

/-- The storage that a mapping spells, or a sequence of its kind and its properties. -/
def Storage.ofTree? (t : Tree) : Option Storage := do
  if !t.isUntagged then none
  let (kind, properties) ← match t with
    | .sequence _ [kind, properties] => some (kind, properties)
    | .mapping _ [(k₁, v₁), (k₂, v₂)] =>
      if k₁.string? = some "kind" ∧ isPropertiesKey k₂ then some (v₁, v₂)
      else if isPropertiesKey k₁ ∧ k₂.string? = some "kind" then some (v₂, v₁)
      else none
    | _ => none
  let interface ← kind.text? >>= Configuration.Interface.ofName?
  some ⟨interface, .ofSettings (← properties.settings?)⟩

/-- The node that a record spells. -/
def Item.ofTree? (t : Tree) : Option Item := do
  let [some id, operation, dependencies, storage] ←
    t.slots? ["id", "operation", "dependencies", "binding"] | none
  some {
    id := ← id.text?
    operation := ← Tree.orElse? Tree.text? defaultOperation operation
    dependencies := ← Tree.orElse? (Tree.list? Tree.text?) [] dependencies
    storage := ← Tree.optional? Storage.ofTree? storage }

/-- The plan that a record spells. -/
def ofTree? (t : Tree) : Option Plan := do
  let [appName, some root, some items] ← t.slots? ["app_name", "root", "nodes"] | none
  some {
    appName := ← Tree.optional? Tree.text? appName
    root := ← root.text?
    items := ← items.list? Item.ofTree? }

/-- The plan that a YAML stream spells. -/
def read? (s : String) : Option Plan :=
  Yaml.read? s >>= ofTree?

end Plan

end Provenance
