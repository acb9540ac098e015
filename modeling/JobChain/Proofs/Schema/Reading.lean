import JobChain.Proofs.Table
import JobChain.Schema.Record

/-!
# Readings of records, issue by issue

A reading is a value or a list of issues, and readings combine so that no issue is lost.  Which
issues a reading finds is therefore told by its parts: by the fields of a record, each at its name,
by the items of an array, each at its index, and by the members that are not declared.

* `Checked.Finds`: an issue is among those that a reading finds.
* `Checked.finds_take_iff`, `Checked.finds_withIssues_iff`, `Checked.Finds.at`: those of readings
  that are put together.
* `finds_readEach_of_getElem?`: those of an array.
* `finds_undeclared`, `undeclared_eq_nil_iff`: the members that are not declared.
-/

namespace JobChain.Schema

/-! ## What readings find -/

namespace Checked

variable {α β : Type} {x : Checked α} {f : Checked (α → β)} {issues : List Issue} {i : Issue}

/-- An issue is among those that a reading finds. -/
def Finds (x : Checked α) (i : Issue) : Prop := ∃ issues, x = .error issues ∧ i ∈ issues

theorem not_finds_ok (a : α) : ¬Finds (.ok a) i := by
  rintro ⟨issues, h, -⟩
  cases h

theorem finds_error_iff : Finds (.error issues : Checked α) i ↔ i ∈ issues := by
  simp [Finds]

/-- Two readings together find what either finds. -/
theorem finds_take_iff : (x.take f).Finds i ↔ f.Finds i ∨ x.Finds i := by
  cases f <;> cases x <;> simp [take, finds_error_iff, not_finds_ok]

/-- A reading with further issues finds these as well. -/
theorem finds_withIssues_iff : (x.withIssues issues).Finds i ↔ x.Finds i ∨ i ∈ issues := by
  cases x with
  | error e => simp [withIssues, finds_error_iff]
  | ok a => cases issues <;> simp [withIssues, finds_error_iff, not_finds_ok]

theorem finds_map_iff {g : α → β} : Finds (x.map g) i ↔ x.Finds i := by
  cases x <;> simp [Except.map, finds_error_iff, not_finds_ok]

/-- What is found in a part is found in the whole, below the key of the part. -/
theorem Finds.at {path : List Key} {fault : Fault} (h : x.Finds ⟨path, fault⟩) (key : Key) :
    (x.at key).Finds ⟨key :: path, fault⟩ := by
  obtain ⟨issues, rfl, hmem⟩ := h
  exact finds_error_iff.mpr (List.mem_map.mpr ⟨_, hmem, rfl⟩)

end Checked

open Checked (Finds)

section Members

variable {α : Type} {members members' : Table Json} {name : String} {read : Json → Checked α}
  {default : α} {path : List Key} {fault : Fault}

/-- What is found in the value of a field is found in the field. -/
theorem finds_field {value : Json} (h : members.get? name = some value)
    (hfinds : (read value).Finds ⟨path, fault⟩) :
    (field members name read default).Finds ⟨.name name :: path, fault⟩ := by
  rw [field_of_get?_eq_some members name read h]
  exact hfinds.at _

/-- A field is read alike in objects that hold the same under its name. -/
theorem field_congr (h : members.get? name = members'.get? name) :
    field members name read default = field members' name read default := by
  rw [field, field, h]

/-- An optional object is read as the object. -/
theorem readOptional_object :
    readOptional read (.object members) = (read (.object members)).map some := rfl

theorem finds_readItems_of_getElem? {items : List Json} {k : Nat} {item : Json} (start : Nat)
    (h : items[k]? = some item) (hfinds : (read item).Finds ⟨path, fault⟩) :
    (readItems read start items).Finds ⟨.index (start + k) :: path, fault⟩ := by
  induction items generalizing start k with
  | nil => simp at h
  | cons first rest ih =>
    rw [readItems, Checked.finds_take_iff]
    cases k with
    | zero =>
      obtain rfl : first = item := by simpa using h
      exact .inl ((Checked.finds_map_iff.mpr hfinds).at _)
    | succ k =>
      have hrest : rest[k]? = some item := by simpa using h
      have hfound := ih (start + 1) hrest
      rw [Nat.add_right_comm] at hfound
      exact .inr hfound

/-- What is found in an item of an array is found in the array, below the index of the item. -/
theorem finds_readEach_of_getElem? {items : List Json} {k : Nat} {item : Json} {f : Fault}
    (h : items[k]? = some item) (hfinds : (read item).Finds ⟨path, fault⟩) :
    (readEach f read (.array items)).Finds ⟨.index k :: path, fault⟩ := by
  have hfound := finds_readItems_of_getElem? 0 h hfinds
  rwa [Nat.zero_add] at hfound

/-! ## Members that are not declared -/

variable {declared : List String}

/-- A member without a declaration is told at its name. -/
theorem mem_undeclared_iff :
    (⟨[.name name], .undeclared⟩ : Issue) ∈ undeclared declared members ↔
      name ∈ members.names ∧ name ∉ declared := by
  simp [undeclared]

/-- A reading that tells undeclared members finds each of them. -/
theorem finds_undeclared (h : name ∈ members.names) (hname : name ∉ declared) (x : Checked α) :
    (x.withIssues (undeclared declared members)).Finds ⟨[.name name], .undeclared⟩ :=
  Checked.finds_withIssues_iff.mpr (.inr (mem_undeclared_iff.mpr ⟨h, hname⟩))

theorem undeclared_eq_nil_iff :
    undeclared declared members = [] ↔ ∀ name ∈ members.names, name ∈ declared := by
  simp [undeclared]

end Members

end JobChain.Schema
