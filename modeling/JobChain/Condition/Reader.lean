import JobChain.Condition.Basic
import JobChain.Failure.Basic
import JobChain.Text.Pattern
import JobChain.Text.Quoted

/-!
# Reading conditions

A condition is written as an identifier, a comparison and a literal, with blank space around each:

* `channel == console`
* `job_name != "nightly report"`
* `user_id == 'u-1'`

The identifier is the name of an aspect in letters of either case.  A literal between two marks of
one kind holds no such mark inside and may be empty or hold blanks.  Any other literal is taken as
it stands; it is not empty and holds no blank, but may hold marks.

* `conditionPattern`: the pattern of a condition, with a group for each part.
* `Condition.read`: the condition that a text is, or why it is none.
-/

namespace JobChain

/-- Why a text is not a condition. -/
inductive ConditionError where
  | missing
  | malformed
  | unsupported (name : String)
deriving DecidableEq, Repr

/-- The reason in words. -/
def ConditionError.message : ConditionError → String
  | missing => "if_condition is required"
  | malformed =>
    let grave := String.ofList [Char.ofNat 0x60]
    "if_condition must match " ++ grave ++ "<field> == <value>" ++ grave ++ " or " ++ grave ++
      "<field> != <value>" ++ grave
  | unsupported name => "if_condition field " ++ Text.quoted name ++ " is unsupported"

/-- The failure that tells why a text is not a condition. -/
def ConditionError.toFailure (e : ConditionError) : Failure := .of .condition e.message

/-! ## Parts -/

/-- Whether a character can begin an identifier: an ASCII letter or an underscore. -/
def isIdentifierStart (c : Char) : Bool :=
  (decide ('A' ≤ c) && decide (c ≤ 'Z')) || (decide ('a' ≤ c) && decide (c ≤ 'z')) || c == '_'

/-- Whether a character can continue an identifier: one that can begin it, or a digit. -/
def isIdentifierPart (c : Char) : Bool :=
  isIdentifierStart c || (decide ('0' ≤ c) && decide (c ≤ '9'))

/-- The comparison that a sign writes. -/
def Comparison.ofSign (sign : List Char) : Comparison :=
  if sign = ['!', '='] then .unequal else .equal

section Pattern

open Text Pattern

/-- Blanks, if there are any. -/
def blanks : Pattern := many isBlank

/-- An identifier, in group 1. -/
def identifierPattern : Pattern :=
  group 1 (seq (one isIdentifierStart) (many isIdentifierPart))

/-- The sign of a comparison, in group 2. -/
def signPattern : Pattern := group 2 (either (word "==") (word "!="))

/-- The characters between two marks, in a group of their own. -/
def markedPattern (mark : Char) (n : Nat) : Pattern :=
  seq (char mark) (seq (group n (many (· != mark))) (char mark))

/-- A literal: what stands between double marks in group 3, what stands between single ones in
group 4, and what stands without marks in group 5. -/
def literalPattern : Pattern :=
  either (markedPattern '"' 3)
    (either (markedPattern '\'' 4) (group 5 (several fun c => !isBlank c)))

/-- A condition: an identifier, a sign and a literal, with blanks around each.  In the usual
notation this is `^\s*([A-Za-z_][A-Za-z0-9_]*)\s*(==|!=)\s*(?:"([^"]*)"|'([^']*)'|(\S+))\s*$`. -/
def conditionPattern : Pattern :=
  seq start <| seq blanks <| seq identifierPattern <| seq blanks <| seq signPattern <|
    seq blanks <| seq literalPattern <| seq blanks finish

end Pattern

/-! ## Whole conditions -/

/-- The condition that compares the aspect of a name. -/
def Condition.ofName (name : String) (comparison : Comparison) (value : List Char) :
    Except ConditionError Condition :=
  match Aspect.ofName? name with
  | none => .error (.unsupported name)
  | some aspect => .ok ⟨aspect, comparison, String.ofList value⟩

/-- The condition that a text is. -/
def Condition.read (raw : String) : Except ConditionError Condition :=
  let trimmed := Text.trim raw
  if trimmed = "" then .error .missing
  else
    match conditionPattern.match? trimmed.toList with
    | none => .error .malformed
    | some groups =>
      let name := Text.lower (Text.trim (String.ofList (groups.text 1)))
      Condition.ofName name (.ofSign (groups.text 2)) (groups.firstText [3, 4, 5])

/-- The value, for a job, of the condition that a text is. -/
def Condition.evaluate (raw : String) (j : Job) : Except ConditionError Bool :=
  (Condition.read raw).map (·.holds j)

end JobChain
