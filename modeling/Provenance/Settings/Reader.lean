import Provenance.Settings
import Provenance.Yaml.Record

/-!
# Reading settings

Settings are read from YAML.  Whatever a file does not say stays as it is by default; a key that
settings do not have is an error.
-/

namespace Provenance.Settings

open Yaml (Tree)

/-- The settings that a record spells, over those by default. -/
def ofTree? (standard : Settings) (t : Tree) : Option Settings := do
  let [namespaceName, parentRunId, parentJobName, appName, defaultFs] ← t.slots?
    ["namespace", "parent_run_id", "parent_job_name", "app_name", "default_fs"] | none
  some {
    namespaceName := ← Tree.orElse? Tree.text? standard.namespaceName namespaceName
    parentRunId := ← Tree.orElse? Tree.text? standard.parentRunId parentRunId
    parentJobName := ← Tree.orElse? Tree.text? standard.parentJobName parentJobName
    appName := ← Tree.optional? Tree.text? appName
    defaultFs := ← Tree.orElse? Tree.text? standard.defaultFs defaultFs }

end Provenance.Settings
