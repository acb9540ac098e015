import JobChain.Binary64.Basic

/-!
# JSON values

Values as they arrive from outside: integers of any size apart from floating-point numbers, and
objects whose members keep their order.

* `Json.isEmpty`: the values that count as nothing.
* `Json.kindName`: the name of a value's kind in messages.
-/

namespace JobChain

/-- A JSON value. -/
inductive Json where
  | null
  | bool (b : Bool)
  | int (n : Int)
  | float (x : Binary64)
  | string (s : String)
  | array (items : List Json)
  | object (members : List (String × Json))

namespace Json

instance : Inhabited Json := ⟨null⟩

/-- Whether a value counts as nothing: null, false, a zero, or something without parts. -/
def isEmpty : Json → Bool
  | null => true
  | bool b => !b
  | int n => n == 0
  | float x => x.isZero
  | string s => s == ""
  | array items => items.isEmpty
  | object members => members.isEmpty

/-- The name of a value's kind. -/
def kindName : Json → String
  | null => "NoneType"
  | bool _ => "bool"
  | int _ => "int"
  | float _ => "float"
  | string _ => "str"
  | array _ => "list"
  | object _ => "dict"

/-- An optional text as a value. -/
def ofText? : Option String → Json
  | some s => string s
  | none => null

end Json

end JobChain
