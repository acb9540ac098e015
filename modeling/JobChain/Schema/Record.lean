import JobChain.Schema.Issue
import JobChain.Table

/-!
# Readings of records

A record is read member by member, in the order in which its fields are declared.  A strict record
refuses members that it does not declare; their issues come last, in the order of the members.

* `record`: a record from the members of an object.
* `field`, `required`: the reading of one field, with a default or without.
* `undeclared`: the issues of the members that are not declared.
* `readEach`: the reading of every item of an array.
-/

namespace JobChain.Schema

/-- The reading of a record from the members of an object. -/
def record {α : Type} (name : String) (read : Table Json → Checked α) : Json → Checked α
  | .object members => read members
  | _ => .fault (.record name)

/-- The reading of a field that has a default. -/
def field {α : Type} (members : Table Json) (name : String) (read : Json → Checked α)
    (default : α) : Checked α :=
  match members.get? name with
  | some value => (read value).at (.name name)
  | none => .ok default

/-- The reading of a field that has to be present. -/
def required {α : Type} (members : Table Json) (name : String) (read : Json → Checked α) :
    Checked α :=
  match members.get? name with
  | some value => (read value).at (.name name)
  | none => .error [⟨[.name name], .missing⟩]

/-- The issues of the members that are not declared. -/
def undeclared (declared : List String) (members : Table Json) : List Issue :=
  (members.names.filter fun n => !declared.contains n).map fun n => ⟨[.name n], .undeclared⟩

/-- The reading of a list of values, the first at the given index. -/
def readItems {α : Type} (read : Json → Checked α) (index : Nat) : List Json → Checked (List α)
  | [] => .ok []
  | item :: items =>
    Checked.take (readItems read (index + 1) items)
      (Checked.at (.index index) ((read item).map List.cons))

/-- The reading of every item of an array; `f` is the fault of a value that is no array. -/
def readEach {α : Type} (f : Fault) (read : Json → Checked α) : Json → Checked (List α)
  | .array items => readItems read 0 items
  | _ => .fault f

/-! ## Reading a field -/

section Field

variable {α : Type} (members : Table Json) (name : String) (read : Json → Checked α)

theorem field_of_get?_eq_some {default : α} {value : Json} (h : members.get? name = some value) :
    field members name read default = (read value).at (.name name) := by
  simp [field, h]

end Field

end JobChain.Schema
