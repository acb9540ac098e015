import JobChain.Command.Files
import JobChain.Command.Options

/-!
# Invocations

A command line begins with options of the whole program, then names one of three commands and goes
on with the options and operands of that command.

* `readProgram`: the command that is named.
* `Subcommand.read`: what a command is asked to do.
* `UsageFault.report`: the text that tells why a command line means nothing.
-/

namespace JobChain.Command

/-- The three commands. -/
inductive Subcommand where
  | validate
  | run
  | config
deriving DecidableEq, Repr

/-- Why a command line means nothing.  A command that is not known comes with the known ones like
it. -/
inductive UsageFault where
  | option (fault : OptionFault)
  | commandMissing
  | commandUnknown (name : String) (known : List String)
  | fileMissing
  | fileIsDirectory (path : String)
  | formatUnknown (text : String)
  | tooMany (operands : List String)
deriving DecidableEq, Repr

namespace UsageFault

/-- The reason in words. -/
def message : UsageFault → String
  | option fault => fault.message
  | commandMissing => "Missing command."
  | commandUnknown name known =>
    "No such command " ++ Text.quoted name ++ "." ++ suggestion known
  | fileMissing => "Missing argument 'WORKFLOW_FILE'."
  | fileIsDirectory path =>
    "Invalid value for 'WORKFLOW_FILE': File " ++ Text.quoted path ++ " is a directory."
  | formatUnknown text =>
    "Invalid value for '--format' / '-f': " ++ Text.quoted text ++ " is not one of 'table', 'json'."
  | tooMany operands =>
    "Got unexpected extra argument" ++ (if operands.length = 1 then " (" else "s (") ++
      " ".intercalate operands ++ ")"

/-- Whether the usage of the command is told with the reason. -/
def tellsUsage : UsageFault → Bool
  | option (.withoutValue _) => false
  | option (.withValue _) => false
  | _ => true

end UsageFault

/-! ## The program -/

/-- The name of the program. -/
def programName : String := "cli"

/-- The options of the program. -/
def programSwitches : List Switch :=
  [{ forms := ["--verbose", "-v"] }, { forms := ["--version"] }, { forms := ["--help"] }]

/-- What the program is asked to do. -/
inductive Request where
  | version
  | help
  | command (verbose : Bool) (name : String) (arguments : List String)
deriving DecidableEq, Repr

/-- The usage of the program. -/
def programUsage : String := programName ++ " [OPTIONS] COMMAND [ARGS]..."

/-- What the program is asked to do by its arguments. -/
def readProgram (arguments : List String) : Except UsageFault Request :=
  match readArguments programSwitches false arguments with
  | .error fault => .error (.option fault)
  | .ok (given, rest) =>
    match given.find? fun g => g.name == "--version" || g.name == "--help" with
    | some g => .ok (if g.name = "--version" then .version else .help)
    | none =>
      match rest with
      | [] => if arguments.isEmpty then .ok .help else .error .commandMissing
      | name :: rest => .ok (.command (isGiven given "--verbose") name rest)

/-! ## Commands -/

namespace Subcommand

/-- All commands. -/
def all : List Subcommand := [validate, run, config]

/-- The name of a command. -/
def name : Subcommand → String
  | validate => "validate"
  | run => "run"
  | config => "config"

/-- The command of a name. -/
def ofName? (s : String) : Option Subcommand := all.find? fun c => c.name == s

/-- The options of a command. -/
def switches : Subcommand → List Switch
  | run =>
    [{ forms := ["--job"], wantsValue := true },
      { forms := ["--format", "-f"], wantsValue := true },
      { forms := ["--help"] }]
  | _ => [{ forms := ["--help"] }]

/-- The usage of a command. -/
def usage (c : Subcommand) : String :=
  programName ++ " " ++ c.name ++ " [OPTIONS]" ++ match c with
    | config => ""
    | _ => " WORKFLOW_FILE"

end Subcommand

/-- What a command is asked to do. -/
inductive Invocation where
  | help
  | validate (file : String)
  | run (file job : String) (asJson : Bool)
  | config
deriving DecidableEq, Repr

/-- The one operand of a command that wants a file.  A path that cannot be used is left for the
command to fail on. -/
def readFileOperand (lookup : String → Target) : List String → Except UsageFault String
  | [] => .error .fileMissing
  | file :: rest =>
    match lookup file with
    | .directory => .error (.fileIsDirectory file)
    | .unusable => .ok file
    | _ => if rest.isEmpty then .ok file else .error (.tooMany rest)

/-- Whether a trace is written as JSON, from the format that was asked for. -/
def readFormat : Option String → Except UsageFault Bool
  | none => .ok false
  | some text =>
    if text = "table" then .ok false
    else if text = "json" then .ok true
    else .error (.formatUnknown text)

/-- What a command is asked to do by its arguments. -/
def Subcommand.read (c : Subcommand) (lookup : String → Target) (arguments : List String) :
    Except UsageFault Invocation :=
  match readArguments c.switches true arguments with
  | .error fault => .error (.option fault)
  | .ok (given, operands) =>
    if isGiven given "--help" then .ok .help
    else
      match c with
      | .validate => (readFileOperand lookup operands).map .validate
      | .run =>
        match readFormat (valueOf? given "--format") with
        | .error fault => .error fault
        | .ok asJson =>
          (readFileOperand lookup operands).map fun file =>
            .run file ((valueOf? given "--job").getD "") asJson
      | .config => if operands.isEmpty then .ok .config else .error (.tooMany operands)

/-! ## Reports -/

/-- The text that tells why a command line means nothing. -/
def UsageFault.report (usage command : String) (fault : UsageFault) : String :=
  (if fault.tellsUsage then
    "Usage: " ++ usage ++ "\nTry '" ++ command ++ " --help' for help.\n\n"
  else "") ++ "Error: " ++ fault.message ++ "\n"

/-- The report on the arguments of the program. -/
def UsageFault.programReport (fault : UsageFault) : String :=
  fault.report programUsage programName

/-- The report on the arguments of a command. -/
def UsageFault.commandReport (c : Subcommand) (fault : UsageFault) : String :=
  fault.report c.usage (programName ++ " " ++ c.name)

end JobChain.Command
