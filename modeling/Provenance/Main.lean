import Provenance.CommandLine
import Std.Time.DateTime.Timestamp

/-!
# The program

The one part of the library that acts.  It looks at the environment, reads the files that the
request may need, draws run ids and the time, and writes what the command line answers.
-/

namespace Provenance.CommandLine

/-- Whether the system reports the error with a number, which it may negate. -/
def isNumber (n reported : UInt32) : Bool :=
  reported == n || reported == 0 - n

/-- What an error of the system says about a file. -/
def fileError (e : IO.Error) : FileError :=
  match e with
  | .noFileOrDirectory _ _ _ => .missing
  | .permissionDenied _ _ _ => .accessDenied
  | .inappropriateType _ n _ =>
    if isNumber 20 n then .notADirectory
    else if isNumber 21 n then .isADirectory
    else .other e.toString
  | .invalidArgument _ n _ => if isNumber 36 n then .nameTooLong else .other e.toString
  | _ => .other e.toString

/-- The content of a file. -/
def content (path : String) : IO (Except FileError String) := do
  try
    let bytes ← IO.FS.readBinFile path
    return (String.fromUTF8? bytes).elim (.error .notText) .ok
  catch e => return .error (fileError e)

/-- The system on which the program runs, as far as the program looks at it. -/
def observe (args : List String) : IO Host := do
  let values ← variableNames.mapM fun name => return (name, ← IO.getEnv name)
  let environment (name : String) : Option String := (values.lookup name).join
  let paths := files (.observed environment fun _ => .error .missing) args
  let contents ← paths.mapM fun path => return (path, ← content path)
  return .observed environment fun path => (contents.lookup path).getD (.error .missing)

/-- A random run id. -/
def drawRun : IO RunId := do
  let bytes ← IO.getRandomBytes 16
  return .random (bytes.toList.foldl (fun n b => n * 256 + b.toNat) 0)

/-- The line of the diagnostic log for a notice. -/
def logLine (n : Notice) : String :=
  " ".intercalate (("WARN " ++ n.message) :: n.fields.map fun (k, v) => k ++ "=" ++ v)

end Provenance.CommandLine

open Provenance in
/-- Run the program on its arguments. -/
def main (args : List String) : IO UInt32 := do
  let millis := (← Std.Time.Timestamp.now).toMillisecondsSinceUnixEpoch.val
  let report := CommandLine.run {
    host := ← CommandLine.observe args
    parent := ← CommandLine.drawRun
    run := ← CommandLine.drawRun
    startMillis := millis
    endMillis := millis
    now := (Instant.ofMillis? millis).getD ⟨0, 0⟩
    write := fun _ => .ok () } args
  IO.print report.text
  for notice in report.notices do
    IO.eprintln (CommandLine.logLine notice)
  for line in report.errors do
    IO.eprintln line
  return .ofNat report.code
