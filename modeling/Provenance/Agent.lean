import Provenance.Dataset.Registry
import Provenance.Facet
import Provenance.JobName
import Provenance.Resolver
import Provenance.Settings

/-!
# Agents

An *agent* is what all jobs of an application share: its settings, with the default filesystem read
from them, and the naming rules for datasets.  It holds nothing of a single job.
-/

namespace Provenance

/-- What the jobs of an application share. -/
structure Agent where
  settings : Settings
  resolver : Resolver
  registry : NamingRegistry

namespace Agent

/-- The agent of an application; there is none if the default filesystem is not a location. -/
def create (settings : Settings) (registry : NamingRegistry) : Except Settings.Defect Agent := do
  let defaultFs ← settings.defaultLocation
  .ok ⟨settings, ⟨defaultFs⟩, registry⟩

/-- The job that the application's events report. -/
def job (a : Agent) : Job :=
  ⟨a.settings.namespaceName, JobName.derive a.settings.appName⟩

/-- The parent of the application's runs. -/
def parent (a : Agent) : ParentFacet :=
  .of a.settings.parentRunId ⟨a.settings.namespaceName, a.settings.parentJobName⟩

/-- A location as a diagnostic description. -/
def describeLocation (l : Location) : String :=
  "Location \x7b scheme: " ++ Text.quoted l.scheme ++
    ", authority: " ++ Text.quotedOption l.authority ++
    ", path: " ++ Text.quoted l.path ++ " \x7d"

/-- The agent as a diagnostic description. -/
def describe (a : Agent) : String :=
  "LineageAgent \x7b config: " ++ a.settings.describe ++
    ", resolver: BindingResolver \x7b default_fs: " ++ describeLocation a.resolver.defaultFs ++
    " \x7d, .. \x7d"

end Agent

end Provenance
