import JobChain.Proofs.Run.Meaning

/-!
# What the log of a run says

The lines of the log are written at four places of a run, and the entries of the trace at two
others.  Who has only the log learns from it nonetheless what the trace says of failures: which
nodes failed and with which errors, which were skipped, and whether anything failed at all.  The
story of the run tells both, one turn and one pass at a time: a turn leaves a line iff its entry is
failed, and a pass always leaves one.

* `Entry.Warns`, `Entry.note`: the lines that tell of a failed and of a skipped entry.
* `Trace.IsToldBy`: the log and the trace of a run tell the same.
* `log_of_run`: they do for every run that returns.
-/

namespace JobChain

variable {σ : Type}

/-! ## Lines and entries -/

/-- The line tells of the failure in an entry: the id and the type of the node, and the error. -/
def Entry.Warns (runId : String) (e : Entry) (event : Log.Event) : Prop :=
  ∃ error, e.error = some error ∧ event = .nodeFailed runId e.nodeId e.nodeType error

/-- The line that tells of a skipped entry. -/
def Entry.note (runId : String) (e : Entry) : Log.Event := .nodeSkipped runId e.nodeId

namespace Trace

/-- The entries of the nodes that failed, in order. -/
def failedEntries (t : Trace) : List Entry := t.entries.filter fun e => e.status = .failed

/-- The entries of the nodes that were skipped, in order. -/
def skippedEntries (t : Trace) : List Entry := t.entries.filter fun e => e.status = .skipped

/-- The events of the log of a run tell what its trace does.  The first names the run, the job and
the number of nodes.  Then there is a warning for each failed entry and a note for each skipped one,
both in the order of the trace, and nothing for the others.  The last one tells whether there were
failures.  So no note is followed by a warning, and the last event agrees with the warnings. -/
structure IsToldBy (jobId : String) (nodes : Nat) (events : List Log.Event) (t : Trace) :
    Prop where
  lines : ∃ warnings, List.Forall₂ (Entry.Warns t.runId) t.failedEntries warnings ∧
    events = .runStarted t.runId jobId nodes ::
      (warnings ++ t.skippedEntries.map (Entry.note t.runId) ++
        [.runFinished t.runId t.hadFailures])
  severities : events.map (·.severity) =
    .info :: (List.replicate t.failedEntries.length .warning ++
      List.replicate t.skippedEntries.length .debug ++ [.info])
  warnings_first : events.Pairwise fun event later =>
    ¬(event.severity = .debug ∧ later.severity = .warning)
  last : events.getLast? =
    some (.runFinished t.runId (decide (∃ event ∈ events, event.severity = .warning)))

end Trace

theorem Entry.Warns.severity {runId : String} {e : Entry} {event : Log.Event}
    (h : e.Warns runId event) : event.severity = .warning := by
  obtain ⟨error, -, rfl⟩ := h
  rfl

section Entries

variable {turns : List Turn} {passes : List Pass} {entries : List Entry}

/-- A turn leaves a line iff it leaves a failed entry, and no entry of a turn is skipped. -/
theorem Turn.Leaves.events {t : Turn} {e : Entry} (h : t.Leaves e) (runId : String) :
    (e.status = .failed ∧ ∃ event, t.events runId = [event] ∧ e.Warns runId event) ∨
      (e.status = .succeeded ∧ t.events runId = []) := by
  unfold Turn.events
  cases h with
  | succeeded hresult hentry =>
    obtain ⟨startedAt, finishedAt, -, -, rfl⟩ := entryAt_eq_ok_iff.mp hentry
    rw [hresult]
    exact .inr ⟨rfl, rfl⟩
  | @failed f text hresult htold hentry =>
    obtain ⟨startedAt, finishedAt, -, -, rfl⟩ := entryAt_eq_ok_iff.mp hentry
    obtain rfl := Failure.eq_describe_of_description htold
    rw [hresult]
    exact .inl ⟨rfl, _, rfl, f.describe, rfl, rfl⟩

/-- The lines of turns tell of the failed entries that the turns leave. -/
theorem warnings_of_turns (h : List.Forall₂ Turn.Leaves turns entries) (runId : String) :
    List.Forall₂ (Entry.Warns runId) (entries.filter fun e => e.status = .failed)
        (turns.flatMap (Turn.events runId)) ∧
      entries.filter (fun e => e.status = .skipped) = [] := by
  induction h with
  | nil => exact ⟨.nil, rfl⟩
  | cons hturn _ ih =>
    obtain ⟨hwarnings, hnone⟩ := ih
    rw [List.flatMap_cons]
    rcases hturn.events runId with ⟨hfailed, event, hevents, hwarns⟩ | ⟨hsucceeded, hevents⟩
    · rw [hevents, List.filter_cons_of_pos (by simp [hfailed]),
        List.filter_cons_of_neg (by simp [hfailed])]
      exact ⟨.cons hwarns hwarnings, hnone⟩
    · rw [hevents, List.filter_cons_of_neg (by simp [hsucceeded]),
        List.filter_cons_of_neg (by simp [hsucceeded])]
      exact ⟨hwarnings, hnone⟩

/-- The lines of passes tell of the entries that the passes leave, all of which are skipped. -/
theorem notes_of_passes (h : List.Forall₂ Pass.Leaves passes entries) (runId : String) :
    entries.filter (fun e => e.status = .failed) = [] ∧
      (entries.filter fun e => e.status = .skipped).map (Entry.note runId) =
        passes.map (Pass.event runId) := by
  induction h with
  | nil => exact ⟨rfl, rfl⟩
  | cons hpass _ ih =>
    obtain ⟨hnone, hnotes⟩ := ih
    obtain ⟨hof, hskipped, -⟩ := hpass.isOf_and_isSkipped
    rw [List.filter_cons_of_neg (by simp [hskipped]), List.filter_cons_of_pos (by simp [hskipped]),
      List.map_cons, List.map_cons, hnotes]
    exact ⟨hnone, congrArg (· :: _) (congrArg (Log.Event.nodeSkipped runId) hof.nodeId)⟩

end Entries

/-! ## Runs -/

/-- The severities of the lines that tell of entries. -/
theorem severities_of_warns {runId : String} {entries : List Entry} {warnings : List Log.Event}
    (h : List.Forall₂ (Entry.Warns runId) entries warnings) :
    warnings.map (·.severity) = List.replicate entries.length .warning := by
  induction h with
  | nil => rfl
  | cons hwarns _ ih => rw [List.map_cons, ih, hwarns.severity]; rfl

theorem severities_of_notes (runId : String) (entries : List Entry) :
    (entries.map (Entry.note runId)).map (·.severity) =
      List.replicate entries.length .debug := by
  induction entries with
  | nil => rfl
  | cons e rest ih => rw [List.map_cons, List.map_cons, ih]; rfl

/-- A log with the lines of a trace tells what the trace does, if the trace had failures iff an
entry is failed. -/
theorem Trace.isToldBy_of_lines {jobId : String} {nodes : Nat} {events : List Log.Event}
    {t : Trace} {warnings : List Log.Event}
    (hwarnings : List.Forall₂ (Entry.Warns t.runId) t.failedEntries warnings)
    (hevents : events = .runStarted t.runId jobId nodes ::
      (warnings ++ t.skippedEntries.map (Entry.note t.runId) ++
        [.runFinished t.runId t.hadFailures]))
    (hfailures : t.hadFailures = true ↔ ∃ e ∈ t.entries, e.status = .failed) :
    t.IsToldBy jobId nodes events := by
  have hseverities : events.map (·.severity) =
      .info :: (List.replicate t.failedEntries.length .warning ++
        List.replicate t.skippedEntries.length .debug ++ [.info]) := by
    rw [hevents, List.map_cons, List.map_append, List.map_append, severities_of_warns hwarnings,
      severities_of_notes]
    rfl
  have hwarned : (∃ event ∈ events, event.severity = .warning) ↔ t.hadFailures = true := by
    have hmem : Log.Severity.warning ∈ events.map (·.severity) ↔ t.failedEntries ≠ [] := by
      rw [hseverities]
      simp [List.mem_replicate]
    rw [← List.mem_map, hmem, hfailures, Trace.failedEntries, ne_eq, List.filter_eq_nil_iff]
    simp
  refine ⟨⟨warnings, hwarnings, hevents⟩, hseverities, ?_, ?_⟩
  · -- of the severities alone it can be seen that nothing follows a note but notes and the last
    have hpairwise : (events.map (·.severity)).Pairwise fun severity later =>
        ¬(severity = .debug ∧ later = .warning) := by
      rw [hseverities]
      simp [List.pairwise_append, List.pairwise_replicate, List.mem_replicate]
    exact List.pairwise_map.mp hpairwise
  · have hdecide : decide (∃ event ∈ events, event.severity = .warning) = t.hadFailures := by
      rw [Bool.eq_iff_iff, decide_eq_true_iff, hwarned]
    rw [hdecide, hevents, ← List.cons_append, List.getLast?_concat]

/-- The log and the trace of a run that returns tell the same. -/
theorem log_of_run {host : Host σ} {jobId : String} {plan? : Option Plan} {s s' : Logged σ}
    {r : RunResult} (h : run host jobId plan? s = (.ok r, s')) :
    ∃ plan events, plan? = some plan ∧ s'.log = s.log ++ events ∧
      r.trace.IsToldBy jobId plan.order.length events := by
  obtain ⟨record, -, hrecorded⟩ := exists_record h
  obtain ⟨plan, st, hplan, htells, -, hlog⟩ := exists_story hrecorded
  obtain ⟨front, back, hentries, hfront, hback⟩ := htells.entries
  obtain ⟨hwarnings, hnoneSkipped⟩ := warnings_of_turns hfront st.runId
  obtain ⟨hnoneFailed, hnotes⟩ := notes_of_passes hback st.runId
  have hfailed : r.trace.failedEntries = front.filter fun e => e.status = .failed := by
    rw [Trace.failedEntries, hentries, List.filter_append, hnoneFailed, List.append_nil]
  have hskipped : r.trace.skippedEntries = back.filter fun e => e.status = .skipped := by
    rw [Trace.skippedEntries, hentries, List.filter_append, hnoneSkipped, List.nil_append]
  rw [← hfailed, ← htells.runId] at hwarnings
  refine ⟨plan, st.events jobId plan.order.length, hplan, hlog,
    Trace.isToldBy_of_lines hwarnings ?_ htells.means.hadFailures_iff⟩
  rw [htells.runId, hskipped, hnotes, htells.hadFailures]
  rfl

theorem log_of_run_interruptedHost :
    ∃ r log, run interruptedHost "job" (some threeStepPlan) ⟨(), []⟩ = (.ok r, ⟨(), log⟩) ∧
      log = [.runStarted "run-1" "job" 3,
        .nodeFailed "run-1" "a" "text_event" "RuntimeError",
        .nodeFailed "run-1" "b" "text_event" "CancelledError",
        .nodeSkipped "run-1" "c", .runFinished "run-1" true] ∧
      ∃ plan events, some threeStepPlan = some plan ∧ log = [] ++ events ∧
        r.trace.IsToldBy "job" plan.order.length events := by
  have hlog : (run interruptedHost "job" (some threeStepPlan) ⟨(), []⟩).2.log =
      [.runStarted "run-1" "job" 3, .nodeFailed "run-1" "a" "text_event" "RuntimeError",
        .nodeFailed "run-1" "b" "text_event" "CancelledError", .nodeSkipped "run-1" "c",
        .runFinished "run-1" true] := by decide +kernel
  obtain ⟨r, hr, -⟩ := yields_run isReliable_interruptedHost
    (tellsFailures_interruptedHost threeStepPlan.order) "job" ⟨(), []⟩
  have hrun : run interruptedHost "job" (some threeStepPlan) ⟨(), []⟩ = (.ok r, _) :=
    Prod.ext hr rfl
  exact ⟨r, _, hrun, hlog, log_of_run hrun⟩

end JobChain
