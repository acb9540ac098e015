import JobChain.Clock
import JobChain.Command.Console
import JobChain.Command.Files
import JobChain.Command.Invocation
import JobChain.Json.Writer
import JobChain.Service
import JobChain.Settings.Basic
import JobChain.Text.Newline

/-!
# The program

Three commands: `validate` compiles the workflow of a file and shows the order of its nodes, `run`
runs it once for a job and shows the trace, and `config` shows the settings.  A command acts on a
session and ends with an exit.

* `validate`, `run`, `config`: the commands.
* `perform`: a whole command line.
-/

namespace JobChain.Command

/-- What a command line finds around it: where paths lead, the settings, the console, the clock's
first reading and how far it moves at each reading, the process and the token of run ids, whether a
wait moves the clock, and the failure of waits, if they fail. -/
structure Surroundings where
  lookup : String → Target
  settings : Settings
  console : Console := .plain
  start : Int
  step : Int
  process : Int
  token : String
  waitsTakeTime : Bool := false
  waitFailure : Option Failure := none

/-- How a command ends: with a status, with a message and the status of failure, or with a failure
that nobody handled. -/
inductive Exit where
  | status (code : Nat)
  | message (text : String)
  | unhandled (failure : Failure)
deriving DecidableEq, Repr

/-- What a command does. -/
abbrev Commanding (α : Type) := Act Exit (Logged Session) α

/-- An act on the session, its failure unhandled. -/
def onSession {α : Type} (act : Act Failure Session α) : Commanding α :=
  Act.mapError .unhandled (Logged.lift act)

variable (w : Surroundings)

/-- Prints a line of marked-up text. -/
def say (text : String) : Commanding Unit := onSession (Session.print w.console text)

/-- Prints a line about what went wrong, and ends the command. -/
def giveUp {α : Type} (reason : String) : Commanding α := do
  say w ("[red]✗ " ++ w.console.escape reason ++ "[/red]")
  Act.fail (.status 1)

/-! ## Collaborators -/

/-- A reading of the clock. -/
def readClock : Act Failure Session Json := fun s =>
  match Clock.timeText s.time with
  | .ok text => (.ok (.string text), { s with time := s.time + w.step })
  | .error e => (.error (.of .value e.message), s)

/-- A new run id. -/
def newRunId : Act Failure Session Json :=
  pure (.string (Clock.runIdText w.settings.idPrefix w.process w.token))

/-- The shortest wait, in seconds, that is too long for a clock whose times are floats. -/
def tooLongWait : Int := .ofNat (Nat.pow 2 1024 - Nat.pow 2 970)

/-- Waits some seconds. -/
def wait (seconds : Int) : Act Failure Session Unit :=
  if tooLongWait ≤ seconds then Act.fail (.of .overflow "int too large to convert to float")
  else do
    Session.note (.waited seconds)
    match w.waitFailure with
    | some failure => Act.fail failure
    | none =>
      if w.waitsTakeTime then
        Act.modify fun s => { s with time := s.time + seconds }

/-- The line that stands for a delivered text. -/
def deliveryLine (j : Job) (text : String) : String :=
  let label := if j.name ≠ "" then j.name else if j.id ≠ "" then j.id else "workflow"
  "[cyan]" ++ w.console.escape ("[" ++ j.dispatch.channel ++ "]") ++ "[/cyan] [bold]" ++
    w.console.escape label ++ "[/bold]: " ++ w.console.escape text

/-- Delivers a text to the console, if texts are echoed. -/
def echo (echoes : Bool) : TextEffect Session := fun j text s =>
  (.act (if echoes then Session.print w.console (deliveryLine w j text) else pure ()), s)

/-- Waits for a delay, as long as the settings allow. -/
def waitDelay : DelayEffect Session := fun seconds =>
  sleepEffect (wait w) (w.settings.cutDelay seconds)

/-- The service of a command. -/
def service (echoes : Bool) : Service Session where
  registry := Registry.withBuiltins [] (some (echo w echoes)) (some (waitDelay w))
  clock := readClock w
  runIds := newRunId w

/-! ## Files -/

/-- The text of a file. -/
def readPayload (path : String) : Commanding String :=
  let clean := cleanPath path
  match w.lookup clean with
  | .file content =>
    match Text.decodeStrict content with
    | .ok cs => pure (Text.withLineFeeds (String.ofList cs))
    | .error e => Act.fail (.unhandled (.of .decoding e.message))
  | .unusable => Act.fail (.unhandled (.of .value "embedded null byte"))
  | target => Act.fail (.message ("Cannot read " ++ path ++ ": " ++ target.fault clean))

/-! ## Validating -/

/-- The line that lists the types of nodes. -/
def typesLine : String :=
  "[dim]Node types: " ++
    w.console.escape (", ".intercalate (startType :: (service w true).registry.types)) ++ "[/dim]"

/-- The row of a node in the table of the order. -/
def orderRow (position : Nat) (n : Node) : List String :=
  [toString position, w.console.escape n.id, n.type,
    if n.title = "" then "[dim]-[/dim]" else w.console.escape n.title,
    if n.continueOnError then "[green]●[/green]" else "[dim]○[/dim]"]

/-- The rows of nodes, the first of them at a position. -/
def orderRows (position : Nat) : List Node → List (List String)
  | [] => []
  | n :: rest => orderRow w position n :: orderRows (position + 1) rest

/-- Compiles the workflow of a file and shows the order of its nodes. -/
def validate (file : String) : Commanding Unit := do
  let content ← readPayload w file
  match (service w true).plan (some (.value (.string content))) with
  | .ok plan =>
    say w ("[green]✓ Workflow is valid[/green] [dim](start: " ++ w.console.escape plan.startId ++
      ")[/dim]")
    onSession (Session.printTable w.console (some "Execution order")
      ["#", "Node", "Type", "Title", "Continue on error"] (orderRows w 1 plan.order))
    say w (typesLine w)
  | .error (.refused reason) =>
    say w ("[red]✗ Invalid workflow:[/red] " ++ w.console.escape reason.message)
    say w (typesLine w)
    Act.fail (.status 1)
  | .error stop => Act.fail (.unhandled stop.toFailure)

/-! ## Running -/

/-- The record of a JSON text. -/
def loadText {α : Type} (subject : Subject α) (text : String) : Commanding α :=
  match (Payload.value (.string text)).load subject with
  | .ok record => pure record
  | .error e => giveUp w e.message

/-- The job of a run: it carries the workflow, and gets a task type and a channel if it has none. -/
def jobOfRun (j : Job) (workflow : Workflow) : Job :=
  { j with
    workflow := some workflow
    taskType := if j.taskType = "" then "workflow" else j.taskType
    dispatch :=
      if j.dispatch.channel = "" then { j.dispatch with channel := w.settings.defaultChannel }
      else j.dispatch }

/-- The colour of a status. -/
def statusColour : Status → String
  | .succeeded => "green"
  | .failed => "red"
  | .skipped => "yellow"

/-- The row of an entry in the table of a run. -/
def entryRow (e : Entry) : List String :=
  [w.console.escape e.nodeId, e.nodeType,
    "[" ++ statusColour e.status ++ "]" ++ e.status.name ++ "[/" ++ statusColour e.status ++ "]",
    e.startedAt, e.finishedAt.getD "", w.console.escape (e.error.getD "")]

/-- Shows what comes of a run as a table. -/
def showResult (r : RunResult) : Commanding Unit := do
  onSession (Session.printTable w.console (some ("Run " ++ r.trace.runId))
    ["Node", "Type", "Status", "Started", "Finished", "Error"] (r.trace.entries.map (entryRow w)))
  match r.error with
  | some f => say w ("[red]First failure:[/red] " ++ w.console.escape f.toFailure.text)
  | none => pure ()

/-- Executes a job.  A failure that is about workflows is told and ends the command; if it does not
tell its text, then what comes up instead is unhandled. -/
def execute (echoes : Bool) (j : Job) : Commanding RunResult := do
  match ← Act.attempt ((service w echoes).execute j) with
  | .ok result => pure result
  | .error failure =>
    if failure.kind.isOfWorkflows then
      match failure.said with
      | .ok text => giveUp w text
      | .error other => Act.fail (.unhandled other)
    else Act.fail (.unhandled failure)

/-- Runs the workflow of a file once for a job and shows the trace. -/
def run (file job : String) (asJson : Bool) : Commanding Unit := do
  let content ← readPayload w file
  let workflow ← loadText w Workflow.subject content
  let j ← loadText w Job.subject (if job = "" then "\x7b\x7d" else job)
  let result ← execute w (!asJson) (jobOfRun w j workflow)
  if asJson then
    onSession (Session.write (Json.writeIndented result.trace.payload ++ "\n"))
  else
    showResult w result
  if result.trace.hadFailures then
    Act.fail (.status 1)

/-! ## Settings -/

/-- An ASCII text in upper case. -/
def upperName (s : String) : String := String.ofList (s.toList.map Char.toUpper)

/-- Shows the settings. -/
def config : Commanding Unit := do
  onSession (Session.printPanel w.console "[bold cyan]Cron Workflow Configuration[/bold cyan]")
  let rows := w.settings.values.map fun e =>
    [e.1, upperName e.1, e.2.getD "[dim]not set[/dim]"]
  onSession (Session.printTable w.console none ["Setting", "Env Variable", "Value"] rows)

/-! ## Command lines -/

/-- What a command line came to. -/
structure Report where
  exitCode : Nat
  failure : Option Failure := none
  effects : List Effect := []
  complaint : String := ""
  logger : Option (String × Int) := none
  log : List Log.Event := []

/-- The version of the program, with its name. -/
def versionText : String := "cron-workflow, version 0.1.0\n"

/-- The name of the logger that every command opens. -/
def loggerName : String := "cron_workflow"

/-- Does what a command is asked to do. -/
def Invocation.act (c : Subcommand) : Invocation → Commanding Unit
  | help => onSession (Session.write ("Usage: " ++ c.usage ++ "\n"))
  | validate file => Command.validate w file
  | run file job asJson => Command.run w file job asJson
  | config => Command.config w

/-- The report on a command that was carried out. -/
def Report.ofExit (s : Logged Session) : Except Exit Unit → Report
  | .ok () => { exitCode := 0, effects := s.state.effects, log := s.log }
  | .error (.status code) => { exitCode := code, effects := s.state.effects, log := s.log }
  | .error (.message text) =>
    { exitCode := 1, effects := s.state.effects, complaint := "Error: " ++ text ++ "\n",
      log := s.log }
  | .error (.unhandled failure) =>
    { exitCode := 1, failure := some failure, effects := s.state.effects, log := s.log }

/-- Carries out a command. -/
def performCommand (verbose : Bool) (c : Subcommand) (arguments : List String) : Report :=
  let level :=
    if verbose then Log.Severity.debug.rank else Log.levelOfName w.settings.logLevel
  let report : Report :=
    match c.read w.lookup arguments with
    | .error fault => { exitCode := 2, complaint := fault.commandReport c }
    | .ok invocation =>
      let (result, s) := invocation.act w c { state := { time := w.start } }
      Report.ofExit s result
  { report with logger := some (loggerName, level), log := Log.shown level report.log }

/-- The report on a command line that names no command.  A name that looks like an option is read as
one first. -/
def unknownCommand (name : String) (arguments : List String) : Report :=
  let known := Text.alike (Subcommand.all.map (·.name)) name
  let unknown : Report :=
    { exitCode := 2, complaint := (UsageFault.commandUnknown name known).programReport }
  let looksLikeOption := match name.toList with
    | c :: _ => !c.isAlphanum
    | [] => false
  if looksLikeOption then
    match readProgram (name :: arguments) with
    | .error fault =>
      if fault = .commandMissing then unknown
      else { exitCode := 2, complaint := fault.programReport }
    | .ok .version => { exitCode := 0, effects := [.wrote versionText] }
    | .ok _ => unknown
  else unknown

/-- Carries out a command line. -/
def perform (arguments : List String) : Report :=
  match readProgram arguments with
  | .error fault => { exitCode := 2, complaint := fault.programReport }
  | .ok .version => { exitCode := 0, effects := [.wrote versionText] }
  | .ok .help => { exitCode := 0, effects := [.wrote ("Usage: " ++ programUsage ++ "\n")] }
  | .ok (.command verbose name rest) =>
    match Subcommand.ofName? name with
    | some c => performCommand w verbose c rest
    | none => unknownCommand name rest

end JobChain.Command
