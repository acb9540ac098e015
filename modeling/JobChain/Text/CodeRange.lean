/-!
# Ranges of code points

Character classes of this library are finite unions of closed ranges of code points.  A class is a
list of pairs `(first, last)`, and membership is one scan of that list.

* `inRanges_iff`: a code point is in a class iff some listed range holds it.
-/

namespace JobChain.Text

/-- A closed range of code points, from its first to its last. -/
abbrev CodeRange := Nat × Nat

/-- Whether some range of the list holds the code point `n`. -/
def inRanges (ranges : List CodeRange) (n : Nat) : Bool :=
  ranges.any fun r => decide (r.1 ≤ n) && decide (n ≤ r.2)

@[simp] theorem inRanges_nil (n : Nat) : inRanges [] n = false := rfl

theorem inRanges_iff {ranges : List CodeRange} {n : Nat} :
    inRanges ranges n = true ↔ ∃ r ∈ ranges, r.1 ≤ n ∧ n ≤ r.2 := by
  simp [inRanges]

end JobChain.Text
