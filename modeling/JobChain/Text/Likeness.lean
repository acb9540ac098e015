/-!
# Likeness of names

How alike two names are is told by the characters that they share: the longest overlap, which is a
run of characters that stands in both, and what is shared before it and after it.  Of overlaps that
are equally long the one that comes first counts, first in the one name and then in the other.

* `longestOverlap`: the longest run of characters in both of two texts.
* `shared`: the count of characters that two texts share.
* `alike`: the names that share enough with a given one.
-/

namespace JobChain.Text

/-! ## Overlaps -/

/-- A run of characters that stands in two texts: where it begins in each, and its size. -/
structure Overlap where
  first : Nat
  second : Nat
  size : Nat
deriving DecidableEq, Repr

/-- The longer of two overlaps, the former if they are equally long. -/
def Overlap.longer (o p : Overlap) : Overlap := if o.size < p.size then p else o

/-- The count of characters at the front that two texts have in common. -/
def commonFront : List Char → List Char → Nat
  | [], _ => 0
  | _ :: _, [] => 0
  | c :: cs, d :: ds => if c = d then commonFront cs ds + 1 else 0

theorem commonFront_le (cs ds : List Char) : commonFront cs ds ≤ cs.length := by
  induction cs generalizing ds with
  | nil => exact Nat.le_refl 0
  | cons c cs ih =>
    cases ds with
    | nil => exact Nat.zero_le _
    | cons d ds =>
      rw [commonFront]
      split
      · exact Nat.succ_le_succ (ih ds)
      · exact Nat.zero_le _

/-- The longest overlap that begins at the front of one text, which is left from index `i` on, and
anywhere in another, which is left from index `j` on. -/
def frontOverlap (i j : Nat) (cs : List Char) : List Char → Overlap
  | [] => ⟨i, j, 0⟩
  | d :: ds => Overlap.longer ⟨i, j, commonFront cs (d :: ds)⟩ (frontOverlap i (j + 1) cs ds)

/-- The longest overlap of a text that is left from index `i` on with a whole one. -/
def overlapFrom (i : Nat) : List Char → List Char → Overlap
  | [], _ => ⟨i, 0, 0⟩
  | c :: cs, ds => Overlap.longer (frontOverlap i 0 (c :: cs) ds) (overlapFrom (i + 1) cs ds)

/-- The longest overlap of two texts. -/
def longestOverlap (cs ds : List Char) : Overlap := overlapFrom 0 cs ds

theorem frontOverlap_le (i j : Nat) (cs ds : List Char) :
    (frontOverlap i j cs ds).first + (frontOverlap i j cs ds).size ≤ i + cs.length := by
  induction ds generalizing j with
  | nil => exact Nat.add_le_add_left (Nat.zero_le _) i
  | cons d ds ih =>
    rw [frontOverlap, Overlap.longer]
    split
    · exact ih (j + 1)
    · exact Nat.add_le_add_left (commonFront_le cs (d :: ds)) i

theorem overlapFrom_le (i : Nat) (cs ds : List Char) :
    (overlapFrom i cs ds).first + (overlapFrom i cs ds).size ≤ i + cs.length := by
  induction cs generalizing i with
  | nil => exact Nat.le_refl i
  | cons c cs ih =>
    rw [overlapFrom, Overlap.longer]
    split
    · exact Nat.le_trans (ih (i + 1)) (by simp only [List.length_cons]; omega)
    · exact frontOverlap_le i 0 (c :: cs) ds

/-- An overlap lies inside the text that it begins in. -/
theorem longestOverlap_le (cs ds : List Char) :
    (longestOverlap cs ds).first + (longestOverlap cs ds).size ≤ cs.length := by
  simpa only [longestOverlap, Nat.zero_add] using overlapFrom_le 0 cs ds

/-! ## Shared characters -/

/-- The count of characters that two texts share: those of the longest overlap, and those shared
before it and after it. -/
def shared (cs ds : List Char) : Nat :=
  let o := longestOverlap cs ds
  if o.size = 0 then 0
  else
    shared (cs.take o.first) (ds.take o.second) + o.size +
      shared (cs.drop (o.first + o.size)) (ds.drop (o.second + o.size))
termination_by cs.length
decreasing_by
  all_goals
    rename_i h
    have hs : (longestOverlap cs ds).size ≠ 0 := h
    have hl := longestOverlap_le cs ds
    simp only [List.length_take, List.length_drop]
    omega

@[simp] theorem shared_nil (ds : List Char) : shared [] ds = 0 := by
  rw [shared]
  exact if_pos rfl

/-- Whether two names are alike: at least three fifths of their characters are shared. -/
def isAlike (s t : String) : Bool :=
  decide (3 * (s.length + t.length) ≤ 10 * shared s.toList t.toList)

/-- The names that are like a given one, in order. -/
def alike (names : List String) (s : String) : List String :=
  (names.filter fun name => isAlike name s).mergeSort fun a b => decide (a ≤ b)

end JobChain.Text
