import JobChain.Proofs.Run.Frame
import JobChain.Proofs.Service.EndToEnd

/-!
# What conditions decide

A condition looks at the aspects of the job that is executed and at nothing else.  In a trace this
shows at every node that tests one: unless the node was skipped it succeeds, and the node after it
is skipped if and only if the condition does not hold for the aspects.

* `Condition.compares`: a condition for the values that it sees.
* `Trace.IsDecidedBy`: the conditions of a trace saw these values.
* `RunResult.Means.isDecidedBy`: a run whose runner compares with them leaves such a trace.
* `Service.isDecidedBy_of_execute`: so does the execution of a job, with the aspects of the job.
-/

namespace JobChain

variable {σ : Type}

/-! ## Values that are seen -/

/-- Whether a condition holds for the values that it sees. -/
def Condition.compares (c : Condition) (seen : Aspect → String) : Bool :=
  match c.comparison with
  | .equal => seen c.aspect == c.value
  | .unequal => seen c.aspect != c.value

theorem Condition.compares_aspect (c : Condition) (j : Job) : c.compares j.aspect = c.holds j := rfl

/-- The verdict on a node, if it tests a condition, is to stop iff the condition does not hold for
the values that are seen. -/
def Node.IsDecidedBy (seen : Aspect → String) (n : Node) (verdict : Except Failure Verdict) :
    Prop :=
  ∀ c, n.type = "if_event" → Condition.read n.ifCondition = .ok c →
    verdict = .ok { stop := !c.compares seen }

/-- In the trace of some nodes the conditions saw these values: a node that tests a condition
succeeds unless it is skipped, and then the next is skipped iff the condition does not hold. -/
def Trace.IsDecidedBy (seen : Aspect → String) (nodes : List Node) (t : Trace) : Prop :=
  ∀ k n c e, nodes[k]? = some n → n.type = "if_event" → Condition.read n.ifCondition = .ok c →
    t.entries[k]? = some e → e.status ≠ .skipped →
      e.status = .succeeded ∧
        ∀ next, t.entries[k + 1]? = some next →
          (next.status = .skipped ↔ c.compares seen = false)

/-! ## Traces -/

/-- Lists that are related have related members at the same place. -/
theorem related_of_getElem? {α β : Type} {R : α → β → Prop} {l : List α} {l' : List β} {k : Nat}
    {a : α} {b : β} (h : List.Forall₂ R l l') (ha : l[k]? = some a) (hb : l'[k]? = some b) :
    R a b :=
  (List.forall₂_iff_zip.mp h).2 (List.mem_of_getElem? (List.getElem?_zip_eq_some.mpr ⟨ha, hb⟩))

namespace RunResult.Means

variable {nodes asked : List Node} {outcomes : List Outcome} {r : RunResult} {k : Nat} {n : Node}
  {o : Outcome} {e : Entry}

/-- The entry of a node that was asked reports the outcome. -/
theorem reports_of_getElem? (h : r.Means nodes asked outcomes) (ho : outcomes[k]? = some o)
    (he : r.trace.entries[k]? = some e) : e.Reports o := by
  have hlt := (List.getElem?_eq_some_iff.mp ho).1
  have hfront : (r.trace.entries.take outcomes.length)[k]? = some e := by
    rw [List.getElem?_take, if_pos hlt, he]
  exact related_of_getElem? h.reports ho hfront

/-- The entries that say skipped are those of the nodes that were not asked. -/
theorem isSkipped_iff (h : r.Means nodes asked outcomes) (he : r.trace.entries[k]? = some e) :
    e.status = .skipped ↔ outcomes.length ≤ k := by
  rcases Nat.lt_or_ge k outcomes.length with hlt | hle
  · refine iff_of_false (fun hskipped => ?_) (Nat.not_le.mpr hlt)
    cases h.reports_of_getElem? (List.getElem?_eq_getElem hlt) he with
    | succeeded _ hstatus _ => cases hstatus.symm.trans hskipped
    | failed _ hstatus _ _ => cases hstatus.symm.trans hskipped
  · refine iff_of_true (h.skipped e ?_).1 hle
    refine List.mem_of_getElem? (i := k - outcomes.length) ?_
    rw [List.getElem?_drop, Nat.add_sub_cancel' hle, he]

/-- The node after one that was asked was not asked iff the chain ends with the one that was. -/
theorem halts_iff (h : r.Means nodes asked outcomes) (hn : nodes[k]? = some n)
    (ho : outcomes[k]? = some o) (hnext : k + 1 < nodes.length) :
    n.Halts o ↔ outcomes.length ≤ k + 1 := by
  have hlt := (List.getElem?_eq_some_iff.mp ho).1
  have hcall : (nodes.zip outcomes)[k]? = some (n, o) := List.getElem?_zip_eq_some.mpr ⟨hn, ho⟩
  have hlength : (nodes.zip outcomes).length = outcomes.length := by
    rw [List.length_zip, Nat.min_eq_right h.length_le]
  constructor
  · intro hhalts
    by_contra hmore
    refine h.goes_on (n, o) (List.mem_of_getElem? (i := k) ?_) hhalts
    rw [List.getElem?_dropLast, if_pos (by omega), hcall]
  · intro hle
    obtain ⟨call, hlast, hhalts⟩ := h.halts (by omega)
    rw [List.getLast?_eq_getElem?, hlength, show outcomes.length - 1 = k by omega, hcall] at hlast
    cases hlast
    exact hhalts

/-- If all verdicts are decided by what is seen, then so is the trace. -/
theorem isDecidedBy {seen : Aspect → String} (h : r.Means nodes asked outcomes)
    (hdecided : List.Forall₂ (fun n o => n.IsDecidedBy seen o.toVerdict) asked outcomes) :
    r.trace.IsDecidedBy seen nodes := by
  intro k n c e hn htype hread he hstatus
  have hlt : k < outcomes.length := Nat.not_le.mp ((h.isSkipped_iff he).not.mp hstatus)
  have ho := List.getElem?_eq_getElem hlt
  have hasked : asked[k]? = some n := by rw [h.asked, List.getElem?_take, if_pos hlt, hn]
  have hverdict := related_of_getElem? hdecided hasked ho c htype hread
  constructor
  · cases h.reports_of_getElem? ho he with
    | succeeded _ hstatus _ => exact hstatus
    | failed hfailure _ _ _ => cases hfailure.symm.trans hverdict
  · intro next hnext
    have hmore : k + 1 < nodes.length := by
      rw [h.entries.length_eq]
      exact (List.getElem?_eq_some_iff.mp hnext).1
    have hhalts : n.Halts outcomes[k] ↔ c.compares seen = false := by
      simp [Node.Halts, hverdict]
    rw [h.isSkipped_iff hnext, ← h.halts_iff hn ho hmore, hhalts]

end RunResult.Means

/-! ## Services -/

namespace Service

variable {text : TextEffect σ} {delay : DelayEffect σ} {clock runIds : Act Failure σ Json}
  {payload : Option (Payload Workflow)} {p : Plan} {n : Node} {j : Job}

/-- The verdicts on nodes are decided by the aspects of the job. -/
theorem isDecidedBy_runNode (h : (ofBuiltins text delay clock runIds).plan payload = .ok p)
    (hn : n ∈ p.order) (s : σ) :
    n.IsDecidedBy j.aspect ((ofBuiltins text delay clock runIds).runNode j n s).1 := by
  intro c htype hread
  have hnormal := (isNormal_and_isSound_of_mem_order h hn).1
  rw [runNode_ofBuiltins, hnormal.normalType_type, if_pos htype, testCondition_evaluateEffect,
    evaluate_of_read hread, Condition.compares_aspect]
  rfl

/-- The conditions of an execution saw the aspects of the job. -/
theorem isDecidedBy_of_execute {s t : Logged σ} {r : RunResult}
    (h : (ofBuiltins text delay clock runIds).plan (j.workflow.map .ready) = .ok p)
    (hrun : (ofBuiltins text delay clock runIds).execute j s = (.ok r, t)) :
    r.trace.IsDecidedBy j.aspect p.order := by
  have hrunner (runner : Runner σ)
      (hr : ((ofBuiltins text delay clock runIds).host j).runner = some runner) (n : Node)
      (hn : n ∈ p.order) (s : σ) : n.IsDecidedBy j.aspect (runner.invoke n s).1 := by
    cases hr
    rw [invoke_runner]
    exact isDecidedBy_runNode h hn s
  rw [execute, h] at hrun
  obtain ⟨record, -, hrecorded⟩ := exists_record hrun
  obtain ⟨_, hplan, hmeans⟩ := means_of_run hrecorded
  cases hplan
  have hanswers := answers_of_run (R := fun n => n.IsDecidedBy j.aspect) hrunner j.id s.state s.log
  rw [hrecorded] at hanswers
  exact hmeans.isDecidedBy hanswers

end Service

end JobChain
