import JobChain.Act
import JobChain.Failure.Basic
import JobChain.Text.Markup

/-!
# Consoles

What a command prints: lines, tables and panels, all of them as they show, and the waits in between.
A command prints marked-up text; text of its users is escaped first.  How texts are escaped and what
shows of a marked-up text is up to the console, which may also refuse to show a text.

* `Console`: what a console makes of texts, and `Console.plain`, a console without styles.
* `Session`: a console in use, with its clock.
* `Session.print`: a line.
* `Session.printTable`, `Session.printPanel`: tables and panels.
-/

namespace JobChain.Command

/-- What a console makes of texts: their escaped form, which puts them into marked-up text, and what
shows of a marked-up text, or why it does not show. -/
structure Console where
  escape : String → String
  render : String → Except Failure String

/-- The failure of a text whose tags do not match. -/
def markupFailure : Failure := .of .markup "closing tag doesn't match any open tag"

/-- A console that shows marked-up text without its styles. -/
def Console.plain : Console where
  escape := Text.Markup.escape
  render text :=
    match Text.Markup.plain? text with
    | some shown => .ok shown
    | none => .error markupFailure

/-- Something on a console. -/
inductive Printed where
  | line (text : String)
  | table (title : Option String) (columns : List String) (rows : List (List String))
  | panel (text : String)
deriving DecidableEq, Repr

/-- What a command did, as far as one can see it. -/
inductive Effect where
  | showed (printed : Printed)
  | waited (seconds : Int)
  | wrote (text : String)
deriving DecidableEq, Repr

/-- A console in use: the time of the next reading of its clock, and what happened so far. -/
structure Session where
  time : Int
  effects : List Effect := []
deriving DecidableEq, Repr

namespace Session

variable {ε : Type}

/-- Notes an effect. -/
def note (effect : Effect) : Act ε Session Unit :=
  Act.modify fun s => { s with effects := s.effects ++ [effect] }

section Printing

variable (console : Console)

/-- What shows of a marked-up text. -/
def shown (text : String) : Act Failure Session String := Act.ofExcept (console.render text)

/-- What shows of marked-up texts. -/
def shownAll : List String → Act Failure Session (List String)
  | [] => pure []
  | text :: rest => do
    let shown ← shown console text
    return shown :: (← shownAll rest)

/-- What shows of rows of marked-up texts. -/
def shownRows : List (List String) → Act Failure Session (List (List String))
  | [] => pure []
  | row :: rest => do
    let shown ← shownAll console row
    return shown :: (← shownRows rest)

/-- Prints a line. -/
def print (text : String) : Act Failure Session Unit := do
  note (.showed (.line (← shown console text)))

/-- Prints a table. -/
def printTable (title : Option String) (columns : List String) (rows : List (List String)) :
    Act Failure Session Unit := do
  let titles ← shownAll console title.toList
  note (.showed (.table titles.head? columns (← shownRows console rows)))

/-- Prints a panel. -/
def printPanel (text : String) : Act Failure Session Unit := do
  note (.showed (.panel (← shown console text)))

end Printing

/-- Writes text as it is. -/
def write (text : String) : Act ε Session Unit := note (.wrote text)

end Session

end JobChain.Command
