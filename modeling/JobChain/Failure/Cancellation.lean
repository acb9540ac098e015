import JobChain.Failure.Basic
import JobChain.Unseen

/-!
# Cancellations

A failure counts as a cancellation when it is one, or a timeout, or was raised from such a failure
through any number of causes.  Contexts do not matter.  The walk along the causes remembers the
places it has seen and stops where it would return to one, so that it ends also where causes form a
cycle.

* `Failure.isCancellation`: the walk from the object that was raised.
-/

namespace JobChain.Failure

/-- Whether a cancellation or timeout is met on the way from an object along the causes, before an
object that has been seen. -/
def meetsInterruption (objects : List FailureObject) (seen : List Nat) (place : Nat) : Bool :=
  if _new : place ∈ seen then false
  else
    match _here : objects[place]? with
    | none => false
    | some o =>
      if o.kind.isInterruption then true
      else
        match o.cause with
        | none => false
        | some next => meetsInterruption objects (place :: seen) next
termination_by unseen seen (List.range objects.length)
decreasing_by
  have hlt : place < objects.length := (List.getElem?_eq_some_iff.mp _here).1
  exact unseen_cons_lt (List.mem_range.mpr hlt) _new

/-- Whether a failure, or one that it was raised from, is a cancellation or a timeout. -/
def isCancellation (f : Failure) : Bool := meetsInterruption f.objects [] f.root

end JobChain.Failure
