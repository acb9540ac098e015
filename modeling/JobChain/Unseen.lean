/-!
# Counting what has not been seen

A walk that never visits a thing twice comes to an end, because the things that it has not seen grow
fewer with each step.

* `unseen_cons_lt`: seeing something new leaves less unseen.
-/

namespace JobChain

variable {α : Type} [DecidableEq α]

/-- How many members of `all` have not been seen. -/
def unseen (seen all : List α) : Nat := (all.filter fun a => decide (a ∉ seen)).length

@[simp] theorem unseen_nil (seen : List α) : unseen seen [] = 0 := rfl

theorem unseen_cons (seen : List α) (a : α) (all : List α) :
    unseen seen (a :: all) = (if a ∈ seen then 0 else 1) + unseen seen all := by
  by_cases h : a ∈ seen
  · simp [unseen, h]
  · simp [unseen, h, Nat.add_comm]

theorem unseen_cons_le (a : α) (seen all : List α) : unseen (a :: seen) all ≤ unseen seen all := by
  induction all with
  | nil => simp
  | cons b all ih =>
    rw [unseen_cons, unseen_cons]
    by_cases hb : b ∈ seen
    · simp [hb, ih]
    · by_cases hab : b = a
      · simp only [hab, List.mem_cons, true_or, ↓reduceIte]
        omega
      · simp [hb, hab, ih]

/-- Seeing something new leaves less unseen. -/
theorem unseen_cons_lt {a : α} {seen all : List α} (ha : a ∈ all) (hs : a ∉ seen) :
    unseen (a :: seen) all < unseen seen all := by
  induction all with
  | nil => simp at ha
  | cons b all ih =>
    rw [unseen_cons, unseen_cons]
    by_cases hab : b = a
    · have := unseen_cons_le a seen all
      subst hab
      simp only [List.mem_cons, true_or, ↓reduceIte, hs]
      omega
    · have ha' : a ∈ all := by
        rcases List.mem_cons.mp ha with h | h
        · exact absurd h.symm hab
        · exact h
      have := ih ha'
      by_cases hb : b ∈ seen
      · simp only [List.mem_cons, hb, or_true, ↓reduceIte]
        omega
      · simp only [List.mem_cons, hab, hb, or_self, ↓reduceIte]
        omega

end JobChain
