import JobChain.Plan.Error
import JobChain.Plan.Normal
import JobChain.Table
import JobChain.Unseen

/-!
# Chains

The chain that starts at a node is found by going from node to successor until there is none.  The
maps may be anything: a successor that was met before closes a cycle, one that is no node is
missing, and a node of the start type cannot be entered.

* `walkChain`: the nodes after the start, in order.
-/

namespace JobChain

theorem Table.mem_of_get?_eq_some {α : Type} {t : Table α} {name : String} {v : α}
    (h : t.get? name = some v) : (name, v) ∈ t := by
  induction t with
  | nil => simp at h
  | cons e t ih =>
    obtain ⟨k, w⟩ := e
    rw [Table.get?_cons] at h
    split at h
    · rename_i hk
      simp only [Option.some.injEq] at h
      simp [hk, h]
    · exact List.mem_cons_of_mem _ (ih h)

/-- The nodes that follow `cursor`, after the nodes in `seen` have been met. -/
def walkFrom (nodes : Table Node) (next : Table String) (seen : List String) (cursor : String) :
    Except CompileStop (List Node) :=
  match _step : next.get? cursor with
  | none => .ok []
  | some id =>
    if _new : id ∈ seen then .error (.refused .cycle)
    else
      match nodes.get? id with
      | none => .error (.missingNode id)
      | some n =>
        if n.kind = .start then .error (.refused .startInChain)
        else (walkFrom nodes next (id :: seen) id).map (n :: ·)
termination_by unseen seen (next.map (·.2))
decreasing_by
  exact unseen_cons_lt (List.mem_map.mpr ⟨_, Table.mem_of_get?_eq_some _step, rfl⟩) _new

/-- The nodes of the chain after its start. -/
def walkChain (nodes : Table Node) (next : Table String) (start : String) :
    Except CompileStop (List Node) :=
  walkFrom nodes next [start] start

end JobChain
