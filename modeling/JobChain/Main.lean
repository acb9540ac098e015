import JobChain.Command.Layout
import JobChain.Command.Program
import JobChain.Log.Line

/-!
# The program on a machine

Gathers what a command line finds around it, has the command line carried out, and then shows what
came of it, the waits in their places.
-/

namespace JobChain.Machine

open Command

/-- What a path leads to on this machine. -/
def targetOf (path : String) : IO Target := do
  if path.contains (Char.ofNat 0) then
    return .unusable
  try
    return .file (← IO.FS.readBinFile path).toList
  catch
    | .inappropriateType _ 21 _ => return .directory
    | .inappropriateType .. => return .throughFile
    | .invalidArgument _ 36 _ => return .tooLong
    | _ => return .missing

/-- What paths lead to, those of the arguments and their clean forms. -/
def targetsOf (arguments : List String) : IO (List (String × Target)) :=
  (arguments ++ arguments.map cleanPath).mapM fun path => return (path, ← targetOf path)

/-- The variables of the environment that settings are read from. -/
def readEnvironment : IO (Table String) := do
  let names := Settings.names ++ Settings.names.map upperName
  let found ← names.mapM fun name => return (← IO.getEnv name).map fun value => (name, value)
  return found.filterMap id

/-- The text of the file of variables, if there is one. -/
def readVariables : IO (Option String) := do
  match ← targetOf ".env" with
  | .file content => return (Text.decodeStrict content).toOption.map String.ofList
  | _ => return none

/-- The present time in seconds: that of a file made now. -/
def readTime : IO Int := do
  let (_, path) ← IO.FS.createTempFile
  let time := (← path.metadata).modified.sec
  IO.FS.removeFile path
  return time

/-- The number of this process, where the machine tells it. -/
def readProcess : IO Int := do
  match ← targetOf "/proc/self/stat" with
  | .file content =>
    let digits := (content.map fun b => Char.ofNat b.toNat).takeWhile Json.isDigit
    return Int.ofNat (Json.digitsValue 0 digits)
  | _ => return 0

/-- A random token of twelve digits. -/
def readToken : IO String := do
  let bytes ← IO.getRandomBytes 6
  return String.ofList (bytes.toList.flatMap fun b => Text.hexDigits 2 b.toNat)

/-- Shows one effect. -/
def showEffect : Effect → IO Unit
  | .showed printed => printed.lines.forM fun line => IO.println line
  | .waited seconds => do
    for _ in [0:seconds.toNat] do
      IO.sleep 1000
  | .wrote text => IO.print text

/-- Shows one line of the log. -/
def showEvent (time : Int) (event : Log.Event) : IO Unit := do
  let record : Log.Record :=
    { logger := loggerName, levelName := event.severity.name, template := event.message }
  match record.line with
  | .ok line => IO.eprintln ((Clock.timeText time).toOption.getD "" ++ " | " ++ line)
  | .error e => IO.eprintln e.message

/-- Shows a report. -/
def showReport (time : Int) (report : Report) : IO Unit := do
  report.effects.forM showEffect
  report.log.forM (showEvent time)
  IO.eprint report.complaint
  match report.failure with
  | some failure => IO.eprintln (failure.kind.name ++ ": " ++ failure.text)
  | none => pure ()

/-- Carries out a command line and tells its exit code. -/
def carryOut (arguments : List String) : IO UInt32 := do
  match Settings.read (← readEnvironment) (← readVariables) with
  | .error issues =>
    IO.eprintln (Schema.report Settings.recordName issues)
    return 1
  | .ok settings =>
    let targets ← targetsOf arguments
    let time ← readTime
    let report := perform
      { lookup := fun path => (targets.lookup path).getD .missing
        settings
        start := time
        step := 0
        process := ← readProcess
        token := ← readToken
        waitsTakeTime := true }
      arguments
    showReport time report
    return UInt32.ofNat report.exitCode

end JobChain.Machine

/-- The program: carries out the command line it is given. -/
def main (arguments : List String) : IO UInt32 := JobChain.Machine.carryOut arguments
