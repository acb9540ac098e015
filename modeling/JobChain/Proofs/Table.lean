import JobChain.Plan.Chain
import Mathlib.Data.List.Induction
import Mathlib.Data.List.Nodup

/-!
# Looking up in tables

A table in which no name occurs twice holds exactly its entries.

* `Table.get?_eq_some_iff`, `Table.get?_eq_none_iff`: what is found under a name.
* `Table.get?_eq_of_perm`: the order of the entries does not matter for that.
* `Table.get?_filter`: looking up in a part of a table.
* `Table.ofEntries_eq_self`: its entries, put one after another, make up the table again.
-/

namespace JobChain.Table

variable {α : Type} {t : Table α} {name : String} {v : α}

theorem get?_eq_none_iff : t.get? name = none ↔ name ∉ t.names := by
  induction t with
  | nil => simp [names]
  | cons e t ih =>
    obtain ⟨k, w⟩ := e
    rw [get?_cons]
    by_cases hk : k = name
    · simp [names, hk]
    · have hk' : name ≠ k := fun h => hk h.symm
      rw [if_neg hk, ih]
      simp [names, hk']

/-- Without repeated names, what is found under a name is what the table lists under it. -/
theorem get?_eq_some_iff (h : t.names.Nodup) : t.get? name = some v ↔ (name, v) ∈ t := by
  refine ⟨mem_of_get?_eq_some, fun hmem => ?_⟩
  cases hfound : t.get? name with
  | none => exact absurd (List.mem_map_of_mem hmem) (get?_eq_none_iff.mp hfound)
  | some w =>
    have hsame : (name, w) = (name, v) :=
      List.inj_on_of_nodup_map h (mem_of_get?_eq_some hfound) hmem rfl
    rw [(Prod.mk.inj hsame).2]

/-- Tables without repeated names that list the same entries are the same to look up in. -/
theorem get?_eq_of_perm {t' : Table α} (h : t.names.Nodup) (hperm : t.Perm t') (name : String) :
    t.get? name = t'.get? name := by
  have hnames : t.names.Perm t'.names := hperm.map Prod.fst
  have h' : t'.names.Nodup := hnames.nodup_iff.mp h
  cases hfound : t.get? name with
  | some v =>
    have hmem := (get?_eq_some_iff h).mp hfound
    exact ((get?_eq_some_iff h').mpr (hperm.mem_iff.mp hmem)).symm
  | none =>
    have hname := get?_eq_none_iff.mp hfound
    exact (get?_eq_none_iff.mpr fun hmem => hname (hnames.mem_iff.mpr hmem)).symm

/-- Entries are kept or dropped by their values: what is found is what was found, if it is kept. -/
theorem get?_filter (p : α → Bool) (h : t.names.Nodup) (name : String) :
    get? (t.filter fun e => p e.2) name = (t.get? name).filter p := by
  induction t with
  | nil => rfl
  | cons e t ih =>
    obtain ⟨k, v⟩ := e
    obtain ⟨hk, ht⟩ := List.nodup_cons.mp h
    rw [List.filter_cons, get?_cons]
    by_cases hname : k = name
    · -- the name is that of the first entry, and of no other
      have hrest : get? t name = none := get?_eq_none_iff.mpr (hname ▸ hk)
      cases hp : p v <;> simp [get?_cons, hname, hp, ih ht, hrest, Option.filter]
    · cases hp : p v <;> simp [get?_cons, hname, ih ht]

/-- A value under a new name goes to the end. -/
theorem put_eq_append (h : name ∉ t.names) (v : α) : t.put name v = t ++ [(name, v)] := by
  induction t with
  | nil => rfl
  | cons e t ih =>
    obtain ⟨k, w⟩ := e
    obtain ⟨hk, ht⟩ := List.ne_and_not_mem_of_not_mem_cons h
    rw [put_cons, if_neg hk.symm, ih ht, List.cons_append]

/-- Entries without repeated names are a table as they stand. -/
theorem ofEntries_eq_self (h : t.names.Nodup) : ofEntries t = t := by
  induction t using List.reverseRecOn with
  | nil => rfl
  | append_singleton t e ih =>
    have hnames : (names t ++ [e.1]).Nodup := by simpa [names] using h
    obtain ⟨ht, hlast⟩ := List.nodup_append.mp hnames
    have hfresh : e.1 ∉ names t := fun hmem => hlast.2 e.1 hmem e.1 (by simp) rfl
    rw [ofEntries, List.foldl_append, ← ofEntries, ih ht, List.foldl_cons, List.foldl_nil,
      put_eq_append hfresh]

end JobChain.Table
