import Provenance.Host
import Provenance.Settings.Reader

/-!
# Loading settings

The settings of an application come from one file: the one that is named explicitly, or else the
one that the environment names, or else the user's own if it is there.  Without a file the settings
are those by default.  A file that is named has to be there: none of the next places is tried in
its stead.

What the environment overrides comes last, and the result has to be valid.
-/

namespace Provenance.Settings

/-- Why settings cannot be loaded. -/
inductive LoadError where
  /-- The file cannot be read. -/
  | unreadable (e : FileError)
  /-- The file is no record of settings. -/
  | illFormed
  /-- The settings are not valid. -/
  | invalid (d : Defect)
  deriving Repr, DecidableEq

/-- The wording of an error. -/
def LoadError.message : LoadError → String
  | unreadable e => "IO error: " ++ e.message
  | illFormed => "YAML error: not a record of settings"
  | invalid d => d.message

/-- The settings that a YAML stream spells, which have to be valid. -/
def ofText (standard : Settings) (s : String) : Except LoadError Settings :=
  match Yaml.read? s >>= ofTree? standard with
  | none => .error .illFormed
  | some settings => settings.validate.mapError .invalid

/-- The settings in a file. -/
def ofFile (standard : Settings) (h : Host) (path : String) : Except LoadError Settings := do
  ofText standard (← (h.read path).mapError .unreadable)

/-- The user's own settings file. -/
def userFile? (h : Host) : Option String :=
  h.settingsDirectory?.map (· ++ "/lineage/config.yaml")

/-- The files from which the settings may come, the first that applies first. -/
def places (h : Host) (explicit : Option String) : List String :=
  explicit.toList ++ (h.environment fileVariable).toList ++ (userFile? h).toList

/-- The file from which the settings come, if there is one. -/
def locate (h : Host) (explicit : Option String) : Option String :=
  (explicit.or (h.environment fileVariable)).or ((userFile? h).filter h.hasFile)

/-- The settings of an application. -/
def load (standard : Settings) (h : Host) (explicit : Option String) :
    Except LoadError Settings := do
  let settings ← match locate h explicit with
    | some path => ofFile standard h path
    | none => .ok standard
  (settings.withOverrides h.environment).validate.mapError .invalid

end Provenance.Settings
