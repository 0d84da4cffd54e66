import Provenance.CommandLine.Arguments

/-!
# Help texts

What the program says about itself and its commands.
-/

namespace Provenance.CommandLine

/-- The lines of help about a topic. -/
def Topic.lines : Topic → List String
  | program => [
    "Data-lineage extraction for batch jobs",
    "",
    "Usage: lineage [OPTIONS] <COMMAND>",
    "",
    "Commands:",
    "  replay   Bind, start and end a job described by a plan, printing its events",
    "  flatten  Print the ids of every node reachable from the plan's root",
    "  help     Print this message or the help of the given subcommand(s)",
    "",
    "Options:",
    "  -v, --verbose  Log debug output to stderr",
    "  -h, --help     Print help",
    "  -V, --version  Print version"]
  | replay => [
    "Bind, start and end a job described by a plan, printing its events",
    "",
    "Usage: lineage replay [OPTIONS] <PLAN>",
    "",
    "Arguments:",
    "  <PLAN>  Path to the YAML job plan",
    "",
    "Options:",
    "      --config <CONFIG>      Path to the agent config file",
    "  -v, --verbose              Log debug output to stderr",
    "      --app-name <APP_NAME>  Application name (overrides config and plan)",
    "      --fail <FAIL>          End the job as failed with this exception message",
    "      --job-id <JOB_ID>      Host job id to report [default: 0]",
    "  -h, --help                 Print help"]
  | flatten => [
    "Print the ids of every node reachable from the plan's root",
    "",
    "Usage: lineage flatten [OPTIONS] <PLAN>",
    "",
    "Arguments:",
    "  <PLAN>  Path to the YAML job plan",
    "",
    "Options:",
    "  -v, --verbose  Log debug output to stderr",
    "  -h, --help     Print help"]
  | help => [
    "Print this message or the help of the given subcommand(s)",
    "",
    "Usage: lineage help [COMMAND]...",
    "",
    "Arguments:",
    "  [COMMAND]...  Print help for the subcommand(s)"]

end Provenance.CommandLine
