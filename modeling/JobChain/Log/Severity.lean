import JobChain.Json.Display
import JobChain.Table
import JobChain.Text.Blank

/-!
# Severities and levels

A line of a log has a severity.  A logger has a level, an integer, and shows the lines whose
severity reaches it.  Levels are given as integers or by name, in letters of either case and with
blank space around the name.

* `Severity.rank`: the level that shows a severity and all above it.
* `levelOf`: the level that a setting asks for.
-/

namespace JobChain.Log

/-- How much a line of a log matters. -/
inductive Severity where
  | debug
  | info
  | warning
  | error
  | critical
deriving DecidableEq, Repr

namespace Severity

/-- The name of a severity. -/
def name : Severity → String
  | debug => "DEBUG"
  | info => "INFO"
  | warning => "WARNING"
  | error => "ERROR"
  | critical => "CRITICAL"

/-- The level that shows a severity and all above it. -/
def rank : Severity → Int
  | debug => 10
  | info => 20
  | warning => 30
  | error => 40
  | critical => 50

end Severity

/-! ## Levels by name -/

/-- The names of levels.  Two severities have a second name, and the lowest level has none. -/
def levelNames : Table Int :=
  [("CRITICAL", 50), ("FATAL", 50), ("ERROR", 40), ("WARNING", 30), ("WARN", 30), ("INFO", 20),
    ("DEBUG", 10), ("NOTSET", 0)]

/-- The uppercase form of a character where that is an ASCII letter, and the character elsewhere.
The names of levels have no other letters.  Besides the ASCII letters, the dotless i and the long s
have such forms. -/
def asciiUpper (c : Char) : Char :=
  if 'a' ≤ c ∧ c ≤ 'z' then Char.ofNat (c.toNat - 32)
  else if c.toNat = 0x131 then 'I'
  else if c.toNat = 0x17F then 'S'
  else c

/-- The level of a name, in letters of either case. -/
def levelOfName? (name : String) : Option Int :=
  levelNames.get? (String.ofList ((Text.trimChars name.toList).map asciiUpper))

/-- The level of a name, or that of information if the name is none. -/
def levelOfName (name : String) : Int := (levelOfName? name).getD Severity.info.rank

/-- The level that a setting asks for; null asks for the level of the name `configured`. -/
def levelOf (configured : String) : Json → Int
  | .null => levelOfName configured
  | .bool b => if b then 1 else 0
  | .int n => n
  | setting => levelOfName setting.display

@[simp] theorem levelOf_int (configured : String) (n : Int) : levelOf configured (.int n) = n := rfl

end JobChain.Log
