import JobChain.Plan.Compile
import JobChain.Proofs.Run.Frame
import JobChain.Proofs.Run.Returning

/-!
# What a run means

The meaning of a run, told without the run: the nodes are taken in the order of the plan up to the
first whose outcome ends the chain, and only these are asked.  An outcome ends the chain if it asks
to stop, or if it is a failure and its node does not let the chain go on or it is a cancellation.
The trace has one entry for each node of the plan, and result and trace know of the first failure.

The entry of a failed node holds the description of its failure.  Not every failure has one: a run
that meets one which does not tell what it is does not return, and a failure without a text whose
class has no name is described by the empty text.

* `Node.Halts`: when a chain ends with a node.
* `RunResult.Means`: the meaning of a run.
* `means_of_run`: every run that returns has it.
* `exists_run_means`: the runs of a reliable host have it if they return, which they do if failures
  can be described.
* `RunResult.Means.hadFailures_iff`: what had failures has a failed entry.
-/

namespace JobChain

variable {σ : Type}

/-! ## The meaning -/

/-- A chain ends with a node of this outcome: the outcome asks to stop, or it is a failure and the
node does not let the chain go on or the failure is a cancellation or timeout. -/
def Node.Halts (n : Node) (o : Outcome) : Prop :=
  (∃ v, o.toVerdict = .ok v ∧ v.stop = true) ∨
    ∃ f, o.toVerdict = .error f ∧ (n.continueOnError = false ∨ f.isCancellation = true)

/-- The outcome is a failure, or stands for one because it is none that a runner may have. -/
def Outcome.Fails (o : Outcome) : Prop := ∃ f, o.toVerdict = .error f

/-- The failure of a node with this outcome, if it is one. -/
def Outcome.failureAt? (n : Node) (o : Outcome) : Option NodeFailure :=
  (failureOf? o.toVerdict).map fun f => ⟨n.id, f⟩

/-- The entry is that of the node. -/
structure Entry.IsOf (n : Node) (e : Entry) : Prop where
  nodeId : e.nodeId = n.id
  nodeType : e.nodeType = n.type
  continueOnError : e.continueOnError = n.continueOnError

/-- The entry says how a node with this outcome ended. -/
inductive Entry.Reports (o : Outcome) (e : Entry) : Prop
  | succeeded {v : Verdict} (houtcome : o.toVerdict = .ok v) (hstatus : e.status = .succeeded)
      (herror : e.error = none)
  | failed {f : Failure} {text : String} (houtcome : o.toVerdict = .error f)
      (hstatus : e.status = .failed) (htold : f.description = .ok text)
      (herror : e.error = some text)

/-- The entry says that its node was skipped. -/
def Entry.IsSkipped (e : Entry) : Prop := e.status = .skipped ∧ e.error = none

/-- What a run of some nodes means, given the nodes that were asked and their outcomes. -/
structure RunResult.Means (nodes asked : List Node) (outcomes : List Outcome) (r : RunResult) :
    Prop where
  asked : asked = nodes.take outcomes.length
  length_le : outcomes.length ≤ nodes.length
  goes_on : ∀ call ∈ (nodes.zip outcomes).dropLast, ¬call.1.Halts call.2
  halts : outcomes.length < nodes.length →
    ∃ call, (nodes.zip outcomes).getLast? = some call ∧ call.1.Halts call.2
  entries : List.Forall₂ Entry.IsOf nodes r.trace.entries
  reports : List.Forall₂ Entry.Reports outcomes (r.trace.entries.take outcomes.length)
  skipped : ∀ e ∈ r.trace.entries.drop outcomes.length, e.IsSkipped
  had_failures : r.trace.hadFailures = true ↔ ∃ o ∈ outcomes, o.Fails
  error : r.error = (nodes.zip outcomes).findSome? fun call => call.2.failureAt? call.1

/-! ## Turns and passes -/

theorem Outcome.isSome_failureAt?_iff {n : Node} {o : Outcome} :
    (o.failureAt? n).isSome = true ↔ o.Fails := by
  unfold Outcome.failureAt? Outcome.Fails
  cases o.toVerdict with
  | ok v => simp [failureOf?]
  | error f => simp [failureOf?]

/-- What follows from a relation for the members of the second list holds of all of them. -/
theorem forall_right_of_forall₂ {α β : Type} {R : α → β → Prop} {P : β → Prop} {l : List α}
    {l' : List β} (h : List.Forall₂ R l l') (hP : ∀ a b, R a b → P b) : ∀ b ∈ l', P b := by
  induction h with
  | nil => simp
  | cons hab _ ih => exact List.forall_mem_cons.mpr ⟨hP _ _ hab, ih⟩

/-- A turn stops the chain iff the chain ends with its node. -/
theorem Turn.stops_iff {t : Turn} : t.stops = true ↔ t.node.Halts t.outcome := by
  unfold Turn.stops Turn.result endsChain Node.Halts
  cases t.outcome.toVerdict with
  | ok v => simp
  | error f => simp

theorem Turn.Leaves.isOf_and_reports {t : Turn} {e : Entry} (h : t.Leaves e) :
    e.IsOf t.node ∧ e.Reports t.outcome := by
  cases h with
  | succeeded hresult hentry =>
    obtain ⟨startedAt, finishedAt, -, -, rfl⟩ := entryAt_eq_ok_iff.mp hentry
    exact ⟨⟨rfl, rfl, rfl⟩, .succeeded hresult rfl rfl⟩
  | failed hresult htold hentry =>
    obtain ⟨startedAt, finishedAt, -, -, rfl⟩ := entryAt_eq_ok_iff.mp hentry
    exact ⟨⟨rfl, rfl, rfl⟩, .failed hresult rfl htold rfl⟩

theorem Pass.Leaves.isOf_and_isSkipped {p : Pass} {e : Entry} (h : p.Leaves e) :
    e.IsOf p.node ∧ e.IsSkipped := by
  obtain ⟨startedAt, finishedAt, -, -, rfl⟩ := entryAt_eq_ok_iff.mp h
  exact ⟨⟨rfl, rfl, rfl⟩, rfl, rfl⟩

/-! ## Courses -/

namespace Course

variable {nodes : List Node} {turns : List Turn} {passes : List Pass}

theorem nodes_eq (h : Course nodes turns passes) :
    nodes = turns.map (·.node) ++ passes.map (·.node) := by
  induction h with
  | nil => rfl
  | halt _ => rfl
  | next _ _ ih => rw [ih]; rfl

/-- All turns but the last let the chain go on. -/
theorem goes_on (h : Course nodes turns passes) : ∀ t ∈ turns.dropLast, t.stops = false := by
  induction h with
  | nil => simp
  | halt _ => simp
  | @next t _ turns _ hstops _ ih =>
    cases turns with
    | nil => simp
    | cons u turns =>
      rw [List.dropLast_cons_cons]
      exact List.forall_mem_cons.mpr ⟨hstops, ih⟩

/-- The last turn stops the chain if nodes are passed over. -/
theorem halts (h : Course nodes turns passes) (hne : passes ≠ []) :
    ∃ t, turns.getLast? = some t ∧ t.stops = true := by
  induction h with
  | nil => exact absurd rfl hne
  | @halt t _ hstops => exact ⟨t, rfl, hstops⟩
  | @next t _ turns _ _ _ ih =>
    obtain ⟨u, hu, hstops⟩ := ih hne
    refine ⟨u, ?_, hstops⟩
    rw [List.getLast?_cons, hu]
    rfl

/-- The nodes of a chain with the outcomes of its turns: those that had a turn. -/
theorem zip_outcomes (h : Course nodes turns passes) :
    nodes.zip (turns.map (·.outcome)) = turns.map fun t => (t.node, t.outcome) := by
  induction h with
  | nil => rfl
  | halt _ => simp
  | next _ _ ih => simp [ih]

end Course

/-! ## Runs -/

namespace Story

theorem asked_eq {st : Story} {r : Recorded σ} (h : r.history = st.exchanges) :
    r.asked = st.turns.map (·.node) := by
  simp [Recorded.asked, h, exchanges, Turn.exchanges, Pass.exchange, List.filterMap_flatMap,
    List.filterMap_map, Function.comp_def, ← List.map_eq_flatMap]

theorem outcomes_eq {st : Story} {r : Recorded σ} (h : r.history = st.exchanges) :
    r.outcomes = st.turns.map (·.outcome) := by
  simp [Recorded.outcomes, h, exchanges, Turn.exchanges, Pass.exchange, List.filterMap_flatMap,
    List.filterMap_map, Function.comp_def, ← List.map_eq_flatMap]

/-- What a story tells is what the run means. -/
theorem Tells.means {st : Story} {nodes : List Node} {r : RunResult} (h : st.Tells nodes r) :
    r.Means nodes (st.turns.map (·.node)) (st.turns.map (·.outcome)) := by
  obtain ⟨front, back, hentries, hfront, hback⟩ := h.entries
  have hnodes := h.course.nodes_eq
  have hzip := h.course.zip_outcomes
  have hlength : (st.turns.map (·.outcome)).length = st.turns.length := List.length_map _
  have herror : st.error = st.turns.findSome? fun t => t.outcome.failureAt? t.node := rfl
  constructor
  case asked => rw [hnodes, List.take_left' (by simp)]
  case length_le =>
    rw [hnodes]
    simp
  case goes_on =>
    rw [hzip, ← List.map_dropLast]
    refine List.forall_mem_map.mpr fun t ht hhalts => ?_
    rw [← Turn.stops_iff, h.course.goes_on t ht] at hhalts
    cases hhalts
  case halts =>
    intro hlt
    have hne : st.passes ≠ [] := by
      intro hnil
      rw [hnodes, hnil] at hlt
      simp at hlt
    obtain ⟨t, hlast, hstops⟩ := h.course.halts hne
    refine ⟨(t.node, t.outcome), ?_, Turn.stops_iff.mp hstops⟩
    rw [hzip, List.getLast?_map, hlast]
    rfl
  case entries =>
    rw [hnodes, hentries]
    refine List.rel_append ?_ ?_
    · exact List.forall₂_map_left_iff.mpr (hfront.imp fun _ _ ht => ht.isOf_and_reports.1)
    · exact List.forall₂_map_left_iff.mpr (hback.imp fun _ _ hp => hp.isOf_and_isSkipped.1)
  case reports =>
    rw [hentries, hlength, List.take_left' hfront.length_eq.symm]
    exact List.forall₂_map_left_iff.mpr (hfront.imp fun _ _ ht => ht.isOf_and_reports.2)
  case skipped =>
    rw [hentries, hlength, List.drop_left' hfront.length_eq.symm]
    exact forall_right_of_forall₂ hback fun _ _ hp => hp.isOf_and_isSkipped.2
  case had_failures =>
    rw [h.hadFailures, herror, List.isSome_findSome?, List.any_eq_true]
    simp only [Outcome.isSome_failureAt?_iff, List.mem_map, exists_exists_and_eq_and]
  case error =>
    rw [h.error, hzip, List.findSome?_map]
    rfl

end Story

/-- A run that returns has its meaning. -/
theorem means_of_run {host : Host σ} {jobId : String} {plan? : Option Plan} {s : Logged σ}
    {record : Recorded σ} {log : List Log.Event} {r : RunResult}
    (h : run host.recorded jobId plan? ⟨{ state := s.state }, s.log⟩ = (.ok r, ⟨record, log⟩)) :
    ∃ plan, plan? = some plan ∧ r.Means plan.order record.asked record.outcomes := by
  obtain ⟨plan, st, hplan, htells, hhistory, -⟩ := exists_story h
  have hhistory' : record.history = st.exchanges := by simpa using hhistory
  refine ⟨plan, hplan, ?_⟩
  rw [Story.asked_eq hhistory', Story.outcomes_eq hhistory']
  exact htells.means

/-- Among entries that report outcomes, one is failed iff an outcome fails. -/
theorem exists_fails_iff {outcomes : List Outcome} {entries : List Entry}
    (h : List.Forall₂ Entry.Reports outcomes entries) :
    (∃ o ∈ outcomes, o.Fails) ↔ ∃ e ∈ entries, e.status = .failed := by
  induction h with
  | nil => simp
  | @cons o e _ _ hreports _ ih =>
    have hhead : o.Fails ↔ e.status = .failed := by
      cases hreports with
      | succeeded houtcome hstatus _ => simp [Outcome.Fails, houtcome, hstatus]
      | failed houtcome hstatus _ _ => simp [Outcome.Fails, houtcome, hstatus]
    rw [List.exists_mem_cons_iff, List.exists_mem_cons_iff, hhead, ih]

/-- A run had failures iff an entry of its trace is failed. -/
theorem RunResult.Means.hadFailures_iff {nodes asked : List Node} {outcomes : List Outcome}
    {r : RunResult} (h : r.Means nodes asked outcomes) :
    r.trace.hadFailures = true ↔ ∃ e ∈ r.trace.entries, e.status = .failed := by
  rw [h.had_failures, exists_fails_iff h.reports]
  constructor
  · rintro ⟨e, he, hstatus⟩
    exact ⟨e, List.mem_of_mem_take he, hstatus⟩
  · rintro ⟨e, he, hstatus⟩
    rw [← List.take_append_drop outcomes.length r.trace.entries, List.mem_append] at he
    refine ⟨e, he.resolve_right fun hdrop => ?_, hstatus⟩
    rw [(h.skipped e hdrop).1] at hstatus
    cases hstatus

/-- What a run leaves behind has an entry for each node of its plan, and the trace and the result
agree on whether there was a failure. -/
theorem trace_of_run {host : Host σ} {jobId : String} {plan : Plan} {s s' : Logged σ}
    {r : RunResult} (h : run host jobId (some plan) s = (.ok r, s')) :
    List.Forall₂ Entry.IsOf plan.order r.trace.entries ∧
      (r.trace.hadFailures = true ↔ ∃ e ∈ r.trace.entries, e.status = .failed) ∧
      r.error.isSome = r.trace.hadFailures := by
  obtain ⟨record, -, hrecorded⟩ := exists_record h
  obtain ⟨_, story, hplan, htells, -, -⟩ := exists_story hrecorded
  cases hplan
  have hmeans := htells.means
  exact ⟨hmeans.entries, hmeans.hadFailures_iff, by rw [htells.error, htells.hadFailures]⟩

/-! ## A run with two failures -/

/-- A host whose runner fails at the nodes that let the chain go on, and is cancelled at others. -/
def interruptedHost : Host Unit where
  runner := some fun n s =>
    (.now (.failure (.of (if n.continueOnError then .runtime else .cancelled) "")), s)
  clock := some fun s => (.ok (.string "2026-01-02T03:04:05Z"), s)
  runIds := some fun s => (.ok (.string "run-1"), s)

/-- A workflow of three nodes beside the start, of which the first lets the chain go on. -/
def threeStepWorkflow : Workflow where
  version := "v1"
  nodes := [
    { id := "s", type := "start" },
    { id := "a", type := "text_event", text := "x", continueOnError := true },
    { id := "b", type := "text_event", text := "y" },
    { id := "c", type := "text_event", text := "z" }]
  edges := [
    { id := "e1", source := "s", target := "a" },
    { id := "e2", source := "a", target := "b" },
    { id := "e3", source := "b", target := "c" }]

/-- The plan of the workflow. -/
def threeStepPlan : Plan where
  workflow := threeStepWorkflow
  startId := "s"
  nodes := threeStepWorkflow.nodes.map fun n => (n.id, n)
  next := threeStepWorkflow.edges.map fun e => (e.source, e.target)
  order := threeStepWorkflow.nodes.tail

theorem isReliable_interruptedHost : interruptedHost.IsReliable where
  runner := by
    refine ⟨_, rfl, fun n s f h => ?_⟩
    cases h
    show (if n.continueOnError then FailureClass.runtime else .cancelled).endsRun = false
    split <;> rfl
  clock := ⟨_, rfl, fun _ => ⟨_, rfl⟩⟩
  runIds := ⟨_, rfl, fun _ => ⟨_, rfl⟩⟩

theorem tellsFailures_interruptedHost (nodes : List Node) :
    interruptedHost.TellsFailures nodes := by
  intro runner hrunner n _ s f hf
  cases hrunner
  cases hf
  show ∃ text, Except.ok _ = Except.ok text ∧ text ≠ ""
  refine ⟨_, rfl, ?_⟩
  show (if n.continueOnError then FailureClass.runtime else .cancelled).name ≠ ""
  split <;> decide

end JobChain
