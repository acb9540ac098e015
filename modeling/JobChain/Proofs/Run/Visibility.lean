import JobChain.Proofs.Failure.Cancellation
import JobChain.Proofs.Plan.Admission
import JobChain.Proofs.Run.Meaning

/-!
# Which cancellations a result shows

A cancellation ends a chain and does not end the run, so that whoever awaits the run has to look for
it in the result.  The result keeps the first failure of a node only.  A cancellation that comes
after a failure which a node has let pass is in the trace, where its text does not tell it from any
other failure, and not in the result.

* `RunResult.ShowsCancellation`: the failure that the result keeps is a cancellation.
* `showsCancellation_iff`: the cancellation that ended a chain is shown iff no node failed before.
* `not_showsCancellation_of_interruptedHost`: a run that hides its cancellation.
-/

namespace JobChain

variable {σ : Type}

/-- The outcome is a cancellation or timeout. -/
def Outcome.IsCancelled (o : Outcome) : Prop :=
  ∃ f, o.toVerdict = .error f ∧ f.isCancellation = true

/-- The failure that the result keeps is a cancellation or timeout, or was raised from one. -/
def RunResult.ShowsCancellation (r : RunResult) : Prop :=
  ∃ f, r.error = some f ∧ f.toFailure.isCancellation = true

instance (o : Outcome) : Decidable o.IsCancelled :=
  match h : o.toVerdict with
  | .ok v => isFalse fun ⟨f, hf, _⟩ => by rw [h] at hf; cases hf
  | .error f => decidable_of_iff (f.isCancellation = true)
      ⟨fun hf => ⟨f, h, hf⟩, fun ⟨g, hg, hcancelled⟩ => by rw [h] at hg; cases hg; exact hcancelled⟩

instance (r : RunResult) : Decidable r.ShowsCancellation :=
  decidable_of_iff (r.error.any (·.toFailure.isCancellation) = true) (Option.any_eq_true _ _)

theorem Outcome.IsCancelled.halts {o : Outcome} (h : o.IsCancelled) (n : Node) : n.Halts o := by
  obtain ⟨f, hf, hcancelled⟩ := h
  exact .inr ⟨f, hf, .inr hcancelled⟩

theorem Outcome.failureAt?_eq_none_iff {n : Node} {o : Outcome} :
    o.failureAt? n = none ↔ ¬o.Fails := by
  rw [← Outcome.isSome_failureAt?_iff (n := n)]
  cases o.failureAt? n <;> simp

theorem Outcome.failureAt?_eq_some_iff {n : Node} {o : Outcome} {f : NodeFailure} :
    o.failureAt? n = some f ↔ n.id = f.nodeId ∧ o.toVerdict = .error f.cause := by
  unfold Outcome.failureAt?
  cases o.toVerdict with
  | ok v => simp [failureOf?]
  | error g =>
    obtain ⟨nodeId, cause⟩ := f
    simp [failureOf?]

section Means

variable {nodes asked : List Node} {outcomes : List Outcome} {r : RunResult}

theorem RunResult.Means.map_fst_zip (h : r.Means nodes asked outcomes) :
    (nodes.zip outcomes).map Prod.fst = asked := by
  rw [List.zip_eq_zip_take_min, Nat.min_eq_right h.length_le, List.take_length,
    List.map_fst_zip (by rw [List.length_take]; exact Nat.min_le_left _ _), h.asked]

theorem RunResult.Means.map_snd_zip (h : r.Means nodes asked outcomes) :
    (nodes.zip outcomes).map Prod.snd = outcomes :=
  List.map_snd_zip h.length_le

/-- The chain ends with the last of the calls that it ends with. -/
theorem RunResult.Means.eq_of_halts (h : r.Means nodes asked outcomes)
    {front back : List (Node × Outcome)} {call : Node × Outcome}
    (hcalls : nodes.zip outcomes = front ++ call :: back) (hhalts : call.1.Halts call.2) :
    back = [] := by
  by_contra hne
  -- a call before the last one lets the chain go on
  refine h.goes_on call ?_ hhalts
  rw [hcalls, List.dropLast_append_cons, List.dropLast_cons_of_ne_nil hne]
  exact List.mem_append_right _ List.mem_cons_self

/-- A failure that the result keeps is that of the last call if it is a cancellation, and no call
before that failed. -/
theorem RunResult.Means.calls_of_cancellation (h : r.Means nodes asked outcomes) {f : NodeFailure}
    (hf : r.error = some f) (hcancelled : f.toFailure.isCancellation = true) :
    ∃ front n o, nodes.zip outcomes = front ++ [(n, o)] ∧ n.id = f.nodeId ∧ o.IsCancelled ∧
      ∀ call ∈ front, ¬call.2.Fails := by
  rw [NodeFailure.toFailure, Failure.isCancellation_ofNode] at hcancelled
  rw [h.error, List.findSome?_eq_some_iff] at hf
  obtain ⟨front, ⟨n, o⟩, back, hcalls, hfailure, hfront⟩ := hf
  obtain ⟨hid, houtcome⟩ := Outcome.failureAt?_eq_some_iff.mp hfailure
  have ho : o.IsCancelled := ⟨f.cause, houtcome, hcancelled⟩
  have hback := h.eq_of_halts hcalls (ho.halts n)
  rw [hback] at hcalls
  exact ⟨front, n, o, hcalls, hid, ho, fun call hcall =>
    Outcome.failureAt?_eq_none_iff.mp (hfront call hcall)⟩

/-- The cancellation that ended a chain is shown iff no node failed before. -/
theorem RunResult.Means.showsCancellation_iff (h : r.Means nodes asked outcomes) :
    r.ShowsCancellation ↔
      (∃ o ∈ outcomes, o.IsCancelled) ∧ ∀ o ∈ outcomes.dropLast, ¬o.Fails := by
  constructor
  · rintro ⟨f, hf, hcancelled⟩
    obtain ⟨front, n, o, hcalls, -, ho, hfront⟩ := h.calls_of_cancellation hf hcancelled
    have houtcomes := h.map_snd_zip
    rw [hcalls, List.map_append, List.map_singleton] at houtcomes
    rw [← houtcomes, List.dropLast_concat]
    exact ⟨⟨o, List.mem_append_right _ List.mem_cons_self, ho⟩, List.forall_mem_map.mpr hfront⟩
  · rintro ⟨⟨o, ho, f, houtcome, hcancelled⟩, hfront⟩
    rw [← h.map_snd_zip] at ho hfront
    obtain ⟨⟨n, _⟩, hcall, rfl⟩ := List.mem_map.mp ho
    obtain ⟨front, back, hcalls⟩ := List.append_of_mem hcall
    have hback := h.eq_of_halts hcalls (.inr ⟨f, houtcome, .inr hcancelled⟩)
    rw [hback] at hcalls
    rw [← List.map_dropLast, hcalls, List.dropLast_concat] at hfront
    refine ⟨⟨n.id, f⟩, ?_, ?_⟩
    · rw [h.error, List.findSome?_eq_some_iff]
      exact ⟨front, (n, _), [], hcalls, Outcome.failureAt?_eq_some_iff.mpr ⟨rfl, houtcome⟩,
        fun call hcall =>
          Outcome.failureAt?_eq_none_iff.mpr (hfront _ (List.mem_map_of_mem hcall))⟩
    · rw [NodeFailure.toFailure, Failure.isCancellation_ofNode]
      exact hcancelled

/-- A cancellation that is shown names the last node that was asked, and all later ones are
skipped. -/
theorem RunResult.Means.last_of_showsCancellation (h : r.Means nodes asked outcomes)
    {f : NodeFailure} (hf : r.error = some f) (hcancelled : f.toFailure.isCancellation = true) :
    (∃ n, asked.getLast? = some n ∧ n.id = f.nodeId) ∧
      ∀ e ∈ r.trace.entries.drop asked.length, e.IsSkipped := by
  obtain ⟨front, n, o, hcalls, hid, -, -⟩ := h.calls_of_cancellation hf hcancelled
  have hasked := h.map_fst_zip
  have hlength : asked.length = outcomes.length := by
    rw [h.asked, List.length_take, Nat.min_eq_left h.length_le]
  rw [hcalls, List.map_append, List.map_singleton] at hasked
  refine ⟨⟨n, ?_, hid⟩, ?_⟩
  · rw [← hasked, List.getLast?_concat]
  · rw [hlength]
    exact h.skipped

end Means

/-- The cancellation that ended the chain of a run is shown by its result iff no node failed before.
If one is shown, then it names the last node that was asked, and all later ones are skipped. -/
theorem showsCancellation_iff_of_run {host : Host σ} {jobId : String} {plan? : Option Plan}
    {s s' : Logged σ} {r : RunResult} (h : run host jobId plan? s = (.ok r, s')) :
    ∃ record : Recorded σ,
      run host.recorded jobId plan? ⟨{ state := s.state }, s.log⟩ = (.ok r, ⟨record, s'.log⟩) ∧
      (r.ShowsCancellation ↔
        (∃ o ∈ record.outcomes, o.IsCancelled) ∧ ∀ o ∈ record.outcomes.dropLast, ¬o.Fails) ∧
      ∀ f, r.error = some f → f.toFailure.isCancellation = true →
        (∃ n, record.asked.getLast? = some n ∧ n.id = f.nodeId) ∧
          ∀ e ∈ r.trace.entries.drop record.asked.length, e.IsSkipped := by
  obtain ⟨record, -, hrecorded⟩ := exists_record h
  obtain ⟨plan, -, hmeans⟩ := means_of_run hrecorded
  exact ⟨record, hrecorded, hmeans.showsCancellation_iff,
    fun f hf hcancelled => hmeans.last_of_showsCancellation hf hcancelled⟩

theorem showsCancellation_iff_of_interruptedHost :
    ∃ r s', run interruptedHost "job" (some threeStepPlan) ⟨(), []⟩ = (.ok r, s') ∧
      ∃ record : Recorded Unit,
        run interruptedHost.recorded "job" (some threeStepPlan) ⟨{ state := () }, []⟩ =
          (.ok r, ⟨record, s'.log⟩) ∧
        (r.ShowsCancellation ↔
          (∃ o ∈ record.outcomes, o.IsCancelled) ∧ ∀ o ∈ record.outcomes.dropLast, ¬o.Fails) ∧
        ∀ f, r.error = some f → f.toFailure.isCancellation = true →
          (∃ n, record.asked.getLast? = some n ∧ n.id = f.nodeId) ∧
            ∀ e ∈ r.trace.entries.drop record.asked.length, e.IsSkipped := by
  obtain ⟨r, hr, -⟩ := yields_run isReliable_interruptedHost
    (tellsFailures_interruptedHost threeStepPlan.order) "job" ⟨(), []⟩
  have hrun : run interruptedHost "job" (some threeStepPlan) ⟨(), []⟩ = (.ok r, _) :=
    Prod.ext hr rfl
  exact ⟨r, _, hrun, showsCancellation_iff_of_run hrun⟩

/-- The second of three nodes is cancelled, and the result keeps the failure that the first has let
pass. -/
theorem not_showsCancellation_of_interruptedHost :
    (planOf {} threeStepWorkflow).toOption = some threeStepPlan ∧
      ∃ r record log,
        run interruptedHost.recorded "job" (some threeStepPlan) ⟨{ state := () }, []⟩ =
          (.ok r, ⟨record, log⟩) ∧
        (∃ o ∈ record.outcomes, o.IsCancelled) ∧ ¬r.ShowsCancellation := by
  refine ⟨by decide +kernel, ?_⟩
  have hhidden : (run interruptedHost.recorded "job" (some threeStepPlan)
      ⟨{ state := () }, []⟩).1.toOption.any (fun r => ¬r.ShowsCancellation) = true := by
    decide +kernel
  have hcancelled : (run interruptedHost.recorded "job" (some threeStepPlan)
      ⟨{ state := () }, []⟩).2.state.outcomes.any (fun o => o.IsCancelled) = true := by
    decide +kernel
  generalize run interruptedHost.recorded "job" (some threeStepPlan) ⟨{ state := () }, []⟩ = result
    at hhidden hcancelled ⊢
  obtain ⟨stop | r, record, log⟩ := result
  · cases hhidden
  · exact ⟨r, record, log, rfl, by simpa using hcancelled, of_decide_eq_true hhidden⟩

end JobChain
