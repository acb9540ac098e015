import JobChain.Binary64.Shortest
import JobChain.Json.Basic
import JobChain.Text.Quoted

/-!
# Values in running text

The form of a value inside a message or a name.  A text stands for itself at the top and is quoted
inside a list or an object; null and the truth values are words with a capital letter.
-/

namespace JobChain.Json

mutual

/-- The form of a value inside a list or an object. -/
def inner : Json → String
  | null => "None"
  | bool true => "True"
  | bool false => "False"
  | int n => toString n
  | float x => x.text
  | string s => Text.quoted s
  | array items => "[" ++ innerItems items ++ "]"
  | object members => "\x7b" ++ innerMembers members ++ "\x7d"

/-- Items with their separators. -/
def innerItems : List Json → String
  | [] => ""
  | [item] => inner item
  | item :: items => inner item ++ ", " ++ innerItems items

/-- Members with their separators. -/
def innerMembers : List (String × Json) → String
  | [] => ""
  | [(name, value)] => Text.quoted name ++ ": " ++ inner value
  | (name, value) :: members =>
    Text.quoted name ++ ": " ++ inner value ++ ", " ++ innerMembers members

end

/-- The form of a value in running text. -/
def display : Json → String
  | string s => s
  | value => inner value

end JobChain.Json
