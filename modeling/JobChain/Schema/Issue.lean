import JobChain.Json.Basic

/-!
# Issues of a record

What is wrong with a value that should be a record, and where.  Reading a record collects every
issue instead of stopping at the first, so a reading is a value or a list of issues, and readings
combine by `Checked.take`.

* `Checked.take`: an argument for a function, both read; the issues of both are kept.
* `Checked.at`: the reading of a part, its issues located below a key.
* `report`: the text that tells all issues.
-/

namespace JobChain.Schema

/-- One part of the path to a value inside a record. -/
inductive Key where
  | name (s : String)
  | index (n : Nat)
deriving DecidableEq, Repr

/-- What is wrong with a value. -/
inductive Fault where
  | text
  | integer
  | integerText
  | integerFraction
  | integerSize
  | finite
  | number
  | numberText
  | truth
  | truthText
  | tuple
  | list
  | dictionary
  | record (name : String)
  | status
  | missing
  | undeclared
  | frozen
  | noAttribute (name : String)
  | negative
deriving DecidableEq, Repr

/-- A fault and the path to the value that has it. -/
structure Issue where
  path : List Key
  fault : Fault
deriving DecidableEq, Repr

/-- The reading of a value: what was read, or all issues. -/
abbrev Checked (α : Type) := Except (List Issue) α

/-- The reading that has one issue, at the value itself. -/
def Checked.fault {α : Type} (f : Fault) : Checked α := .error [⟨[], f⟩]

/-- An argument for a function, both read: the issues of both are kept, those of the function
first. -/
def Checked.take {α β : Type} (x : Checked α) (f : Checked (α → β)) : Checked β :=
  match f, x with
  | .ok f, .ok a => .ok (f a)
  | .ok _, .error e => .error e
  | .error e, .ok _ => .error e
  | .error e, .error e' => .error (e ++ e')

/-- A value that was read, with the issues of a further check added. -/
def Checked.withIssues {α : Type} (issues : List Issue) : Checked α → Checked α
  | .ok a => if issues.isEmpty then .ok a else .error issues
  | .error e => .error (e ++ issues)

/-- The reading of the part under a key. -/
def Checked.at {α : Type} (key : Key) : Checked α → Checked α
  | .ok a => .ok a
  | .error issues => .error (issues.map fun i => { i with path := key :: i.path })

@[simp] theorem Checked.take_ok_ok {α β : Type} (f : α → β) (a : α) :
    Checked.take (.ok a) (.ok f) = .ok (f a) := rfl

@[simp] theorem Checked.withIssues_nil {α : Type} (x : Checked α) : x.withIssues [] = x := by
  cases x <;> simp [Checked.withIssues]

@[simp] theorem Checked.at_ok {α : Type} (key : Key) (a : α) :
    Checked.at key (.ok a) = .ok a := rfl

/-- Two readings succeed together iff each does. -/
theorem Checked.take_eq_ok_iff {α β : Type} {f : Checked (α → β)} {x : Checked α} {b : β} :
    x.take f = .ok b ↔ ∃ g a, f = .ok g ∧ x = .ok a ∧ b = g a := by
  cases f with
  | error e => cases x <;> simp [Checked.take]
  | ok g =>
    cases x with
    | error e => simp [Checked.take]
    | ok a => simp [Checked.take, eq_comm]

theorem Checked.at_eq_ok_iff {α : Type} {key : Key} {x : Checked α} {a : α} :
    x.at key = .ok a ↔ x = .ok a := by
  cases x <;> simp [Checked.at]

/-! ## Reports -/

/-- The tag of a fault. -/
def Fault.tag : Fault → String
  | text => "string_type"
  | integer => "int_type"
  | integerText => "int_parsing"
  | integerFraction => "int_from_float"
  | integerSize => "int_parsing_size"
  | finite => "finite_number"
  | number => "float_type"
  | numberText => "float_parsing"
  | truth => "bool_type"
  | truthText => "bool_parsing"
  | tuple => "tuple_type"
  | list => "list_type"
  | dictionary => "dict_type"
  | record _ => "model_type"
  | status => "enum"
  | missing => "missing"
  | undeclared => "extra_forbidden"
  | frozen => "frozen_instance"
  | noAttribute _ => "no_such_attribute"
  | negative => "greater_than_equal"

/-- The sentence that tells a fault. -/
def Fault.message : Fault → String
  | text => "Input should be a valid string"
  | integer => "Input should be a valid integer"
  | integerText => "Input should be a valid integer, unable to parse string as an integer"
  | integerFraction => "Input should be a valid integer, got a number with a fractional part"
  | integerSize => "Unable to parse input string as an integer, exceeded maximum size"
  | finite => "Input should be a finite number"
  | number => "Input should be a valid number"
  | numberText => "Input should be a valid number, unable to parse string as a number"
  | truth => "Input should be a valid boolean"
  | truthText => "Input should be a valid boolean, unable to interpret input"
  | tuple => "Input should be a valid tuple"
  | list => "Input should be a valid list"
  | dictionary => "Input should be a valid dictionary"
  | record name => "Input should be a valid dictionary or instance of " ++ name
  | status => "Input should be 'succeeded', 'failed' or 'skipped'"
  | missing => "Field required"
  | undeclared => "Extra inputs are not permitted"
  | frozen => "Instance is frozen"
  | noAttribute name => "Object has no attribute '" ++ name ++ "'"
  | negative => "Input should be greater than or equal to 0"

/-- The form of a key in a path.  A name with a point in it is set apart by grave accents. -/
def Key.text : Key → String
  | name s =>
    if s.toList.contains '.' then
      let grave := String.ofList [Char.ofNat 0x60]
      grave ++ s ++ grave
    else s
  | index n => toString n

/-- The lines that tell an issue: its path, unless it is that of the whole value, and its fault. -/
def Issue.lines (i : Issue) : List String :=
  (if i.path.isEmpty then [] else [".".intercalate (i.path.map Key.text)]) ++
    ["  " ++ i.fault.message ++ " [type=" ++ i.fault.tag ++ "]"]

/-- The text that tells all issues of a record of the given name. -/
def report (name : String) (issues : List Issue) : String :=
  let count := toString issues.length ++
    (if issues.length = 1 then " validation error for " else " validation errors for ")
  "\n".intercalate ((count ++ name) :: issues.flatMap Issue.lines)

end JobChain.Schema
