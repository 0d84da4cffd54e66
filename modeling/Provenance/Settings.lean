import Provenance.Location
import Provenance.RunId
import Provenance.Text.Quoted

/-!
# Settings

The settings of an application say under which namespace its jobs are reported, which run is their
parent, what the application is called, and on which filesystem bare paths are taken.  They are
*valid* if the namespace is not blank and the default filesystem is a location.

Three of them can be overridden from the environment; a blank value overrides nothing.
-/

namespace Provenance

/-- The settings of an application. -/
structure Settings where
  namespaceName : String
  parentRunId : String
  parentJobName : String
  appName : Option String
  defaultFs : String
  deriving Repr, DecidableEq

namespace Settings

/-- What is wrong with settings. -/
inductive Defect where
  /-- The namespace is blank. -/
  | blankNamespace
  /-- The default filesystem is not a location. -/
  | defaultFs (e : Location.Malformed)
  deriving Repr, DecidableEq

/-- The wording of a defect. -/
def Defect.message : Defect → String
  | blankNamespace => "invalid configuration: namespace must not be empty"
  | defaultFs e => "invalid configuration: default_fs: " ++ e.message

/-! ## Names in the environment -/

/-- The variable that names the settings file. -/
def fileVariable : String := "LINEAGE_CONFIG"

/-- The variable that overrides the namespace. -/
def namespaceVariable : String := "LINEAGE_NAMESPACE"

/-- The variable that overrides the run id of the parent. -/
def parentRunIdVariable : String := "LINEAGE_PARENT_RUN_ID"

/-- The variable that overrides the job name of the parent. -/
def parentJobNameVariable : String := "LINEAGE_PARENT_JOB_NAME"

/-! ## Making settings -/

/-- The settings of an application that says nothing, with a parent run id made for it. -/
def standard (parent : RunId) : Settings where
  namespaceName := "default"
  parentRunId := parent.toText
  parentJobName := "unknown"
  appName := none
  defaultFs := "file:///"

/-- The value of a variable, unless it is blank. -/
def override? (environment : String → Option String) (name : String) : Option String :=
  (environment name).filter (!Text.isBlankText ·)

/-- The settings with what the environment overrides. -/
def withOverrides (s : Settings) (environment : String → Option String) : Settings :=
  { s with
    namespaceName := (override? environment namespaceVariable).getD s.namespaceName
    parentRunId := (override? environment parentRunIdVariable).getD s.parentRunId
    parentJobName := (override? environment parentJobNameVariable).getD s.parentJobName }

/-- The settings with another name of the application. -/
def withAppName (s : Settings) (name : String) : Settings :=
  { s with appName := some name }

/-- The settings with another namespace. -/
def withNamespace (s : Settings) (name : String) : Settings :=
  { s with namespaceName := name }

/-! ## Using settings -/

/-- The default filesystem as a location. -/
def defaultLocation (s : Settings) : Except Defect Location :=
  (Location.parse s.defaultFs).mapError .defaultFs

/-- The settings themselves, if they are valid. -/
def validate (s : Settings) : Except Defect Settings :=
  if Text.isBlankText s.namespaceName then .error .blankNamespace
  else s.defaultLocation.map fun _ => s

/-- The settings as a diagnostic description. -/
def describe (s : Settings) : String :=
  "LineageConfig \x7b namespace: " ++ Text.quoted s.namespaceName ++
    ", parent_run_id: " ++ Text.quoted s.parentRunId ++
    ", parent_job_name: " ++ Text.quoted s.parentJobName ++
    ", app_name: " ++ Text.quotedOption s.appName ++
    ", default_fs: " ++ Text.quoted s.defaultFs ++ " \x7d"

end Settings

end Provenance
