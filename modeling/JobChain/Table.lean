/-!
# Ordered tables

A table maps names to values and remembers the order in which names first appeared.  Putting a value
under a name that is present replaces the value and keeps the place; a new name goes to the end.

* `get?_put`: what a table holds after a value has been put.
* `names_put`: its names after that.
-/

namespace JobChain

/-- A table: its entries in order. -/
abbrev Table (α : Type) := List (String × α)

namespace Table

variable {α : Type}

/-- The value under a name. -/
def get? (t : Table α) (name : String) : Option α :=
  match t with
  | [] => none
  | (k, v) :: rest => if k = name then some v else get? rest name

/-- The names, in order. -/
def names (t : Table α) : List String := t.map (·.1)

/-- Whether a name is present. -/
def has (t : Table α) (name : String) : Bool := (t.get? name).isSome

/-- The table with the value under the name. -/
def put (t : Table α) (name : String) (value : α) : Table α :=
  match t with
  | [] => [(name, value)]
  | (k, v) :: rest => if k = name then (k, value) :: rest else (k, v) :: put rest name value

/-- The table of a list of entries, the last under each name winning. -/
def ofEntries (entries : List (String × α)) : Table α :=
  entries.foldl (fun t e => t.put e.1 e.2) []

@[simp] theorem get?_nil (name : String) : get? ([] : Table α) name = none := rfl

theorem get?_cons (k : String) (v : α) (t : Table α) (name : String) :
    get? ((k, v) :: t) name = if k = name then some v else get? t name := rfl

@[simp] theorem put_nil (name : String) (v : α) : put ([] : Table α) name v = [(name, v)] := rfl

theorem put_cons (k : String) (w : α) (t : Table α) (name : String) (v : α) :
    put ((k, w) :: t) name v = if k = name then (k, v) :: t else (k, w) :: put t name v := rfl

/-- A value that has been put is found under its name, and nothing else changes. -/
theorem get?_put (t : Table α) (name other : String) (v : α) :
    (t.put name v).get? other = if name = other then some v else t.get? other := by
  induction t with
  | nil => rfl
  | cons e t ih =>
    obtain ⟨k, w⟩ := e
    by_cases hk : k = name
    · by_cases ho : name = other
      · simp [put_cons, get?_cons, hk, ho]
      · simp [put_cons, get?_cons, hk, ho]
    · rw [put_cons, if_neg hk, get?_cons, get?_cons, ih]
      by_cases ho : k = other
      · rw [if_pos ho, if_pos ho, if_neg fun h => hk (ho.trans h.symm)]
      · rw [if_neg ho, if_neg ho]

/-- Putting a value keeps the names of a table that has the name, and appends the name otherwise. -/
theorem names_put (t : Table α) (name : String) (v : α) :
    (t.put name v).names = if name ∈ t.names then t.names else t.names ++ [name] := by
  induction t with
  | nil => simp [names]
  | cons e t ih =>
    obtain ⟨k, w⟩ := e
    by_cases hk : k = name
    · simp [put_cons, names, hk]
    · have ih' : List.map (·.1) (put t name v) =
          if name ∈ List.map (·.1) t then List.map (·.1) t else List.map (·.1) t ++ [name] := ih
      have hk' : ¬name = k := fun h => hk h.symm
      rw [put_cons, if_neg hk]
      simp only [names, List.map_cons, ih', List.mem_cons, hk', false_or]
      split <;> simp

end Table

end JobChain
