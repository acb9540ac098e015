import JobChain.Text.Likeness
import JobChain.Text.Quoted

/-!
# Options on a command line

The arguments of a command are options and operands.  A long option begins with two dashes and may
carry its value after an equality sign; short options begin with one dash, may stand together, and
carry a value in what follows them.  An option that wants a value and carries none takes the next
argument.  Two dashes alone end the options.

* `suggestion`: the question whether a known name was meant.
* `argumentOf`: what one argument is.
* `readArguments`: the options given and the operands left.
-/

namespace JobChain.Command

/-- An option that a command knows, by its forms with their dashes. -/
structure Switch where
  forms : List String
  wantsValue : Bool := false
deriving DecidableEq, Repr

/-- The form by which an option is known. -/
def Switch.name (s : Switch) : String := s.forms.headD ""

/-- An option that was given: the name of the option, and its value if it has one. -/
structure Given where
  name : String
  value? : Option String := none
deriving DecidableEq, Repr

/-- What is wrong with an option.  A form that is not known comes with the known ones like it. -/
inductive OptionFault where
  | unknown (form : String) (known : List String)
  | withoutValue (form : String)
  | withValue (form : String)
deriving DecidableEq, Repr

/-- The question whether one of some known names was meant, if there are any. -/
def suggestion : List String → String
  | [] => ""
  | [name] => " Did you mean " ++ Text.quoted name ++ "?"
  | names => " (Did you mean one of: " ++ ", ".intercalate (names.map Text.quoted) ++ "?)"

/-- The fault in words. -/
def OptionFault.message : OptionFault → String
  | unknown form known => "No such option " ++ Text.quoted form ++ "." ++ suggestion known
  | withoutValue form => "Option " ++ Text.quoted form ++ " requires an argument."
  | withValue form => "Option " ++ Text.quoted form ++ " does not take a value."

/-- What an argument is.  The last option of an argument may wait for its value. -/
inductive Argument where
  | operand
  | endOfOptions
  | options (given : List Given) (awaiting : Option (Switch × String))
deriving DecidableEq, Repr

variable (switches : List Switch)

/-- The option of a form. -/
def findSwitch? (form : String) : Option Switch := switches.find? fun s => s.forms.contains form

/-- The long forms of the options. -/
def longForms : List String := (switches.flatMap (·.forms)).filter fun form => form.startsWith "--"

/-- The short options that stand together in the characters after a dash. -/
def readCluster : List Char → Except OptionFault Argument
  | [] => .ok (.options [] none)
  | c :: cs =>
    let form := String.ofList ['-', c]
    match findSwitch? switches form with
    | none => .error (.unknown form [])
    | some s =>
      if s.wantsValue then
        if cs.isEmpty then .ok (.options [] (some (s, form)))
        else .ok (.options [⟨s.name, some (String.ofList cs)⟩] none)
      else
        match readCluster cs with
        | .ok (.options given awaiting) => .ok (.options (⟨s.name, none⟩ :: given) awaiting)
        | other => other

/-- The long option whose form and value, if it carries one, have been split. -/
def readLong (form : String) (value? : Option String) : Except OptionFault Argument :=
  match findSwitch? switches form, value? with
  | none, _ => .error (.unknown form (Text.alike (longForms switches) form))
  | some s, some v =>
    if s.wantsValue then .ok (.options [⟨s.name, some v⟩] none) else .error (.withValue form)
  | some s, none =>
    if s.wantsValue then .ok (.options [] (some (s, form)))
    else .ok (.options [⟨s.name, none⟩] none)

/-- What one argument is. -/
def argumentOf (argument : String) : Except OptionFault Argument :=
  match argument.toList with
  | ['-', '-'] => .ok .endOfOptions
  | '-' :: '-' :: cs =>
    let form := String.ofList ('-' :: '-' :: cs.takeWhile (· != '='))
    match cs.dropWhile (· != '=') with
    | [] => readLong switches form none
    | _ :: value => readLong switches form (some (String.ofList value))
  | '-' :: c :: cs => readCluster switches (c :: cs)
  | _ => .ok .operand

/-- The options given in arguments and the operands left, in order.  If options may not follow
operands, everything after the first operand is one. -/
def readArguments (mixed : Bool) : List String → Except OptionFault (List Given × List String)
  | [] => .ok ([], [])
  | argument :: rest =>
    match argumentOf switches argument with
    | .error fault => .error fault
    | .ok .endOfOptions => .ok ([], rest)
    | .ok .operand =>
      if mixed then (readArguments mixed rest).map fun r => (r.1, argument :: r.2)
      else .ok ([], argument :: rest)
    | .ok (.options given none) => (readArguments mixed rest).map fun r => (given ++ r.1, r.2)
    | .ok (.options given (some (s, form))) =>
      match rest with
      | [] => .error (.withoutValue form)
      | value :: rest =>
        (readArguments mixed rest).map fun r => (given ++ ⟨s.name, some value⟩ :: r.1, r.2)

/-- Whether an option was given. -/
def isGiven (given : List Given) (name : String) : Bool := given.any fun g => g.name == name

/-- The last value that was given for an option. -/
def valueOf? (given : List Given) (name : String) : Option String :=
  (given.reverse.find? fun g => g.name == name).bind (·.value?)

end JobChain.Command
