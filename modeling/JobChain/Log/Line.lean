import JobChain.Log.Template
import JobChain.Table

/-!
# Lines on a console

A line of the log on a console: the name of the logger, the name of the level in its colour, and the
message.  Names that have no colour stand plain.

* `Record.line`: the line of a record.
-/

namespace JobChain.Log

/-- The codes of the colours, by the names of levels; the last one ends a colour. -/
def colourCodes : Table String :=
  [("DEBUG", "36"), ("INFO", "32"), ("WARNING", "33"), ("ERROR", "31"), ("CRITICAL", "35"),
    ("RESET", "0")]

/-- The sequence that switches a terminal to a colour. -/
def colour (code : String) : String := String.ofList [Char.ofNat 0x1B] ++ "[" ++ code ++ "m"

/-- The name of a level in its colour. -/
def coloured (levelName : String) : String :=
  match colourCodes.get? levelName with
  | some code => colour code ++ levelName ++ colour "0"
  | none => levelName

/-- What a logger is asked to write. -/
structure Record where
  logger : String
  levelName : String
  template : String
  arguments : List Json := []

/-- The line of a record. -/
def Record.line (r : Record) : Except TemplateError String :=
  (fill r.template r.arguments).map fun message =>
    r.logger ++ " | " ++ coloured r.levelName ++ " | " ++ message

end JobChain.Log
