import JobChain.Failure.Cancellation

/-!
# Cancellations under the failure of a node

The failure of a node is a new object on top of those of its cause.  Walking from it along causes
goes to the cause first and never comes back to the new object, so that it is a cancellation iff the
cause is.

* `meetsInterruption_eq`: one step of the walk, with an equation for each way that it can go.
* `isCancellation_ofNode`: the failure of a node.
-/

namespace JobChain.Failure

/-- One step of the walk along causes. -/
theorem meetsInterruption_eq (objects : List FailureObject) (seen : List Nat) (place : Nat) :
    meetsInterruption objects seen place =
      if place ∈ seen then false
      else
        match objects[place]? with
        | none => false
        | some o =>
          if o.kind.isInterruption then true
          else
            match o.cause with
            | none => false
            | some next => meetsInterruption objects (place :: seen) next := by
  rw [meetsInterruption]
  split
  · rfl
  · split
    · rename_i hnone
      simp only [hnone]
    · rename_i o ho
      cases hcause : o.cause <;> simp only [ho, hcause]

section Objects

variable {objects : List FailureObject} {top o : FailureObject} {seen : List Nat}
  {place next : Nat}

theorem meetsInterruption_of_isInterruption (hnew : place ∉ seen) (ho : objects[place]? = some o)
    (hkind : o.kind.isInterruption = true) : meetsInterruption objects seen place = true := by
  rw [meetsInterruption_eq, if_neg hnew, ho]
  simp only [hkind, if_true]

theorem meetsInterruption_of_cause_eq_none (hnew : place ∉ seen) (ho : objects[place]? = some o)
    (hkind : ¬o.kind.isInterruption = true) (hcause : o.cause = none) :
    meetsInterruption objects seen place = false := by
  rw [meetsInterruption_eq, if_neg hnew, ho]
  simp only [hkind, hcause, Bool.false_eq_true, if_false]

theorem meetsInterruption_of_cause_eq_some (hnew : place ∉ seen) (ho : objects[place]? = some o)
    (hkind : ¬o.kind.isInterruption = true) (hcause : o.cause = some next) :
    meetsInterruption objects seen place = meetsInterruption objects (place :: seen) next := by
  rw [meetsInterruption_eq, if_neg hnew, ho]
  simp only [hkind, hcause, Bool.false_eq_true, if_false]

theorem getElem?_append_singleton (ho : objects[place]? = some o) :
    (objects ++ [top])[place]? = some o := by
  rw [List.getElem?_append_left (List.getElem?_eq_some_iff.mp ho).1, ho]

theorem notMem_append_length (hnew : place ∉ seen) (ho : objects[place]? = some o) :
    place ∉ seen ++ [objects.length] := by
  have hlt := (List.getElem?_eq_some_iff.mp ho).1
  rw [List.mem_append, List.mem_singleton, not_or]
  exact ⟨hnew, Nat.ne_of_lt hlt⟩

end Objects

/-- An object after all others that has been seen makes no difference. -/
theorem meetsInterruption_append_singleton (objects : List FailureObject) (top : FailureObject)
    (seen : List Nat) (place : Nat) :
    meetsInterruption (objects ++ [top]) (seen ++ [objects.length]) place =
      meetsInterruption objects seen place := by
  induction seen, place using meetsInterruption.induct objects with
  | case1 seen place hseen =>
    rw [meetsInterruption_eq, meetsInterruption_eq, if_pos hseen,
      if_pos (List.mem_append_left _ hseen)]
  | case2 seen place hnew hnone =>
    rw [meetsInterruption_eq objects, if_neg hnew, hnone, meetsInterruption_eq]
    have hend := List.getElem?_eq_none_iff.mp hnone
    -- past the end stands either the new object, which has been seen, or nothing
    by_cases htop : place = objects.length
    · rw [if_pos (by simp [htop])]
    · have hbeyond : (objects ++ [top])[place]? = none := by
        rw [List.getElem?_eq_none_iff, List.length_append, List.length_singleton]
        omega
      rw [hbeyond]
      split <;> rfl
  | case3 seen place hnew o ho hkind =>
    rw [meetsInterruption_of_isInterruption hnew ho hkind, meetsInterruption_of_isInterruption
      (notMem_append_length hnew ho) (getElem?_append_singleton ho) hkind]
  | case4 seen place hnew o ho hkind hcause =>
    rw [meetsInterruption_of_cause_eq_none hnew ho hkind hcause, meetsInterruption_of_cause_eq_none
      (notMem_append_length hnew ho) (getElem?_append_singleton ho) hkind hcause]
  | case5 seen place hnew o ho hkind next hcause ih =>
    rw [meetsInterruption_of_cause_eq_some hnew ho hkind hcause, meetsInterruption_of_cause_eq_some
      (notMem_append_length hnew ho) (getElem?_append_singleton ho) hkind hcause,
      ← List.cons_append, ih]

/-- The failure of a node is a cancellation iff what the node failed with is. -/
theorem isCancellation_ofNode (nodeId : String) (cause : Failure) :
    (ofNode nodeId cause).isCancellation = cause.isCancellation := by
  unfold isCancellation ofNode
  rw [meetsInterruption_eq, if_neg List.not_mem_nil, List.getElem?_concat_length]
  exact meetsInterruption_append_singleton cause.objects _ [] cause.root

end JobChain.Failure
