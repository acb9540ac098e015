import JobChain.Binary64.Shortest
import JobChain.Json.Basic
import JobChain.Text.Encoding

/-!
# Writing JSON text

Two layouts of a JSON value, both in ASCII alone: `write` puts everything on one line, with a space
after each comma and colon, and `writeIndented` puts every item and member on a line of its own.
Characters outside the printable part of ASCII are escaped, those past `U+FFFF` by the pair of
surrogates that stands for them.

* `escapeChar`: the form of a character inside a string.
-/

namespace JobChain.Json

/-- The escape of a code unit in four digits. -/
def escapeUnit (n : Nat) : List Char := '\\' :: 'u' :: Text.hexDigits 4 n

/-- The form of a character inside a string. -/
def escapeChar (c : Char) : List Char :=
  if c = '"' then ['\\', '"']
  else if c = '\\' then ['\\', '\\']
  else if c = '\n' then ['\\', 'n']
  else if c = '\r' then ['\\', 'r']
  else if c = '\t' then ['\\', 't']
  else if c.toNat = 8 then ['\\', 'b']
  else if c.toNat = 12 then ['\\', 'f']
  else if 0x20 ≤ c.toNat ∧ c.toNat ≤ 0x7E then [c]
  else (Text.Encoding.units16 c).flatMap escapeUnit

/-- A string between quotation marks. -/
def stringChars (s : String) : List Char := '"' :: s.toList.flatMap escapeChar ++ ['"']

/-- A floating-point number. -/
def floatChars (x : Binary64) : List Char :=
  if x.isNaN then "NaN".toList
  else if x.isInfinite then
    if x.isNegative then "-Infinity".toList else "Infinity".toList
  else x.text.toList

mutual

/-- The text of a value on one line. -/
def chars : Json → List Char
  | null => "null".toList
  | bool true => "true".toList
  | bool false => "false".toList
  | int n => (toString n).toList
  | float x => floatChars x
  | string s => stringChars s
  | array items => '[' :: itemChars items ++ [']']
  | object members => '{' :: memberChars members ++ ['}']

/-- Items with their separators. -/
def itemChars : List Json → List Char
  | [] => []
  | [item] => chars item
  | item :: items => chars item ++ ',' :: ' ' :: itemChars items

/-- Members with their separators. -/
def memberChars : List (String × Json) → List Char
  | [] => []
  | [(name, value)] => stringChars name ++ ':' :: ' ' :: chars value
  | (name, value) :: members =>
    stringChars name ++ ':' :: ' ' :: chars value ++ ',' :: ' ' :: memberChars members

end

/-- The text of a value on one line. -/
def write (value : Json) : String := String.ofList (chars value)

/-- A line break and the indentation of the given depth. -/
def newLine (depth : Nat) : List Char := '\n' :: List.replicate (2 * depth) ' '

mutual

/-- The text of a value over several lines, from a line of the given depth on. -/
def indentedChars (depth : Nat) : Json → List Char
  | null => "null".toList
  | bool true => "true".toList
  | bool false => "false".toList
  | int n => (toString n).toList
  | float x => floatChars x
  | string s => stringChars s
  | array [] => ['[', ']']
  | array (item :: items) =>
    '[' :: newLine (depth + 1) ++ indentedItems (depth + 1) (item :: items) ++
      newLine depth ++ [']']
  | object [] => ['{', '}']
  | object (member :: members) =>
    '{' :: newLine (depth + 1) ++ indentedMembers (depth + 1) (member :: members) ++
      newLine depth ++ ['}']

/-- Items, each on a line of its own. -/
def indentedItems (depth : Nat) : List Json → List Char
  | [] => []
  | [item] => indentedChars depth item
  | item :: items => indentedChars depth item ++ ',' :: newLine depth ++ indentedItems depth items

/-- Members, each on a line of its own. -/
def indentedMembers (depth : Nat) : List (String × Json) → List Char
  | [] => []
  | [(name, value)] => stringChars name ++ ':' :: ' ' :: indentedChars depth value
  | (name, value) :: members =>
    stringChars name ++ ':' :: ' ' :: indentedChars depth value ++ ',' :: newLine depth ++
      indentedMembers depth members

end

/-- The text of a value over several lines, indented by two spaces at each depth. -/
def writeIndented (value : Json) : String := String.ofList (indentedChars 0 value)

end JobChain.Json
