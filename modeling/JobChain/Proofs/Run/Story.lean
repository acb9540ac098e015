import JobChain.Proofs.Run.Recording
import Mathlib.Data.List.Forall2

/-!
# The story of a run

A run that returns can be told from beginning to end.  Some of the nodes had their turn, one after
another: the clock was read, the runner was asked and answered, and the clock was read again.  The
others were passed over, with one reading of the clock for each.  The record of the host, the log
and the trace are three ways of telling this story.

* `Turn`, `Pass`: what became of one node.
* `Course`: how a chain goes on from turn to turn and where it ends.
* `runNodes_recorded`: the nodes of a chain took such a course.
* `exists_story`: so did every run that returned.
-/

namespace JobChain

open Schema (Checked readText readOptional)

variable {σ : Type}

/-! ## Readings of times -/

theorem readText_eq_ok_iff {j : Json} {text : String} :
    readText j = .ok text ↔ j = .string text := by
  cases j <;> simp [readText, Checked.fault]

/-- An entry is there iff its first time is a text and its second is a text or null. -/
theorem entryAt_eq_ok_iff {n : Node} {status : Status} {error : Option String}
    {started finished : Json} {e : Entry} :
    entryAt n status error started finished = .ok e ↔
      ∃ startedAt finishedAt, started = .string startedAt ∧
        readOptional readText finished = .ok finishedAt ∧
        e = ⟨n.id, n.type, status, n.continueOnError, startedAt, finishedAt, error⟩ := by
  simp only [entryAt, Checked.take_eq_ok_iff, Checked.at_eq_ok_iff, readText_eq_ok_iff,
    Except.ok.injEq]
  constructor
  · rintro ⟨_, finishedAt, ⟨_, startedAt, rfl, hstarted, rfl⟩, hfinished, rfl⟩
    exact ⟨startedAt, finishedAt, hstarted, hfinished, rfl⟩
  · rintro ⟨startedAt, finishedAt, hstarted, hfinished, rfl⟩
    exact ⟨_, finishedAt, ⟨_, startedAt, rfl, hstarted, rfl⟩, hfinished, rfl⟩

/-- An entry may be marked after it has been made. -/
theorem entryAt_marked {n : Node} {status : Status} {error : Option String}
    {started finished : Json} {e : Entry} (h : entryAt n status error started finished = .ok e)
    (status' : Status) (error' : Option String) :
    entryAt n status' error' started finished =
      .ok { e with status := status', error := error' } := by
  obtain ⟨startedAt, finishedAt, hstarted, hfinished, rfl⟩ := entryAt_eq_ok_iff.mp h
  exact entryAt_eq_ok_iff.mpr ⟨startedAt, finishedAt, hstarted, hfinished, rfl⟩

theorem checkedAs_eq_ok_iff {α : Type} {recordName : String} {x : Checked α} {a : α}
    {s s' : Logged σ} :
    checkedAs recordName x s = (.ok a, s') ↔ x = .ok a ∧ s' = s := by
  rw [checkedAs, Act.ofExcept_eq_ok_iff]
  cases x <;> simp [Except.mapError]

theorem note_eq_ok_iff {event : Log.Event} {u : Unit} {s s' : Logged σ} :
    (Logged.note event : Running σ Unit) s = (.ok u, s') ↔
      s' = { s with log := s.log ++ [event] } := by
  simp [eq_comm]

/-! ## Turns and passes -/

/-- What became of a node that had its turn: the clock before, what the runner answered, and the
clock after. -/
structure Turn where
  node : Node
  started : Json
  outcome : Outcome
  finished : Json

namespace Turn

/-- The verdict of the runner, or the failure in its place. -/
def result (t : Turn) : Except Failure Verdict := t.outcome.toVerdict

/-- Whether the chain ends with the turn. -/
def stops (t : Turn) : Bool := endsChain t.node t.result

/-- The failure of the node, if it failed. -/
def failure? (t : Turn) : Option NodeFailure := (failureOf? t.result).map fun f => ⟨t.node.id, f⟩

/-- What the host was asked, and what it answered. -/
def exchanges (t : Turn) : List Exchange :=
  [.time (.ok t.started), .asked t.node, .answered t.outcome, .time (.ok t.finished)]

/-- What the log says of the turn. -/
def events (runId : String) (t : Turn) : List Log.Event :=
  match failureOf? t.result with
  | some f => [.nodeFailed runId t.node.id t.node.type f.describe]
  | none => []

/-- The turn leaves an entry in the trace.  If the node failed, then its failure could be described
for that. -/
inductive Leaves (t : Turn) (e : Entry) : Prop
  | succeeded {v : Verdict} (result : t.result = .ok v)
      (entry : entryAt t.node .succeeded none t.started t.finished = .ok e)
  | failed {f : Failure} {text : String} (result : t.result = .error f)
      (told : f.description = .ok text)
      (entry : entryAt t.node .failed (some text) t.started t.finished = .ok e)

theorem Leaves.exists_entryAt {t : Turn} {e : Entry} (h : t.Leaves e) :
    ∃ status error, status ≠ .skipped ∧
      entryAt t.node status error t.started t.finished = .ok e := by
  cases h with
  | succeeded _ hentry => exact ⟨_, _, Status.noConfusion, hentry⟩
  | failed _ _ hentry => exact ⟨_, _, Status.noConfusion, hentry⟩

end Turn

/-- What became of a node that was passed over: the clock was read. -/
structure Pass where
  node : Node
  time : Json

namespace Pass

/-- What the host was asked, and what it answered. -/
def exchange (p : Pass) : Exchange := .time (.ok p.time)

/-- What the log says of the pass. -/
def event (runId : String) (p : Pass) : Log.Event := .nodeSkipped runId p.node.id

/-- The pass leaves an entry in the trace. -/
def Leaves (p : Pass) (e : Entry) : Prop := entryAt p.node .skipped none p.time p.time = .ok e

end Pass

/-! ## Nodes -/

section Nodes

variable {runner : Runner σ} {clock : Act Failure σ Json} {runId : String}

theorem invoke_apply (runner : Runner σ) (n : Node) (s : Logged σ) :
    invoke runner n s =
      (match (runner.invoke n s.state).1 with
        | .ok v => .ok (.ok v)
        | .error f => if f.kind.endsRun then .error f else .ok (.error f),
        { s with state := (runner.invoke n s.state).2 }) := by
  simp only [invoke, Act.bind_apply, Logged.lift]
  rcases runner.invoke n s.state with ⟨f | v, t⟩
  · cases hends : f.kind.endsRun <;> simp [hends]
  · rfl

/-- Asking a runner about a node yields its verdict or the failure in its place, unless the failure
is of a class that ends runs. -/
theorem invoke_eq_ok_iff {n : Node} {s s' : Logged σ} {result : Except Failure Verdict} :
    invoke runner n s = (.ok result, s') ↔
      result = (runner.invoke n s.state).1 ∧
        s' = { s with state := (runner.invoke n s.state).2 } ∧
        ∀ f, result = .error f → f.kind.endsRun = false := by
  rw [invoke_apply, Prod.mk.injEq]
  rcases runner.invoke n s.state with ⟨f | v, t⟩
  · cases hends : f.kind.endsRun with
    | true =>
      simp only [hends, if_true, reduceCtorEq, false_and, false_iff]
      rintro ⟨rfl, -, hends'⟩
      rw [hends' f rfl] at hends
      cases hends
    | false =>
      simp only [hends, Bool.false_eq_true, if_false, Except.ok.injEq]
      constructor
      · rintro ⟨rfl, rfl⟩
        exact ⟨rfl, rfl, fun g hg => by rwa [← Except.error.inj hg]⟩
      · rintro ⟨rfl, rfl, -⟩
        exact ⟨rfl, rfl⟩
  · simp only [Except.ok.injEq]
    constructor
    · rintro ⟨rfl, rfl⟩
      exact ⟨rfl, rfl, fun f hf => by cases hf⟩
    · rintro ⟨rfl, rfl, -⟩
      exact ⟨rfl, rfl⟩

/-- Asking a recorded runner is recorded, and so is its answer. -/
theorem invoke_recorded {n : Node} {s s' : Logged (Recorded σ)} {result : Except Failure Verdict}
    (h : invoke runner.recorded n s = (.ok result, s')) :
    ∃ outcome : Outcome, outcome.toVerdict = result ∧ s'.log = s.log ∧
      s'.state.history = s.state.history ++ [.asked n, .answered outcome] := by
  obtain ⟨rfl, rfl, -⟩ := invoke_eq_ok_iff.mp h
  obtain ⟨outcome, -, hinvoke⟩ := runner.invoke_recorded n s.state
  rw [hinvoke]
  exact ⟨outcome, rfl, rfl, rfl⟩

/-- Reading a recorded clock, or asking a recorded source of ids. -/
theorem lift_recorded {exchange : Except Failure Json → Exchange} {act : Act Failure σ Json}
    {s s' : Logged (Recorded σ)} {j : Json}
    (h : Logged.lift (act.recorded exchange) s = (.ok j, s')) :
    s'.log = s.log ∧ s'.state.history = s.state.history ++ [exchange (.ok j)] := by
  obtain ⟨hj, rfl⟩ := Prod.mk.inj h
  exact ⟨rfl, by rw [← hj]; rfl⟩

/-- An entry without a failure stays as it is; one with a failure is marked with its description,
which the log is told as well. -/
theorem mark_eq_ok_iff {n : Node} {entry e : Entry} {failure? : Option Failure}
    {s s' : Logged σ} :
    mark runId n entry failure? s = (.ok e, s') ↔
      (failure? = none ∧ e = entry ∧ s' = s) ∨
      ∃ f text, failure? = some f ∧ f.description = .ok text ∧
        e = { entry with status := .failed, error := some text } ∧
        s' = { s with log := s.log ++ [.nodeFailed runId n.id n.type text] } := by
  cases failure? with
  | none => simp [mark, eq_comm]
  | some f =>
    simp only [mark, Act.bind_eq_ok_iff, Act.ofExcept_eq_ok_iff, note_eq_ok_iff,
      Act.pure_eq_ok_iff, reduceCtorEq, false_and, false_or, Option.some.injEq]
    constructor
    · rintro ⟨text, _, ⟨htold, rfl⟩, _, _, rfl, rfl, rfl⟩
      exact ⟨f, text, rfl, htold, rfl, rfl⟩
    · rintro ⟨_, text, rfl, htold, rfl, rfl⟩
      exact ⟨text, s, ⟨htold, rfl⟩, (), _, rfl, rfl, rfl⟩

/-- A visit is a turn. -/
theorem visit_recorded {n : Node} {s s' : Logged (Recorded σ)} {v : Visit}
    (h : visit runner.recorded (clock.recorded .time) runId n s = (.ok v, s')) :
    ∃ t : Turn, t.node = n ∧ t.Leaves v.entry ∧ v.failure? = failureOf? t.result ∧
      v.stops = t.stops ∧ s'.state.history = s.state.history ++ t.exchanges ∧
      s'.log = s.log ++ t.events runId := by
  simp only [visit, Act.bind_eq_ok_iff, Act.pure_eq_ok_iff] at h
  obtain ⟨started, s₁, hstarted, result, s₂, hresult, finished, s₃, hfinished, entry, s₄, hentry,
    marked, s₅, hmark, rfl, rfl⟩ := h
  obtain ⟨hlog₁, hhistory₁⟩ := lift_recorded hstarted
  obtain ⟨outcome, rfl, hlog₂, hhistory₂⟩ := invoke_recorded hresult
  obtain ⟨hlog₃, hhistory₃⟩ := lift_recorded hfinished
  obtain ⟨hread, rfl⟩ := checkedAs_eq_ok_iff.mp hentry
  have hhistory : s₄.state.history = s.state.history ++
      [.time (.ok started), .asked n, .answered outcome, .time (.ok finished)] := by
    rw [hhistory₃, hhistory₂, hhistory₁]
    simp
  have hlog : s₄.log = s.log := by rw [hlog₃, hlog₂, hlog₁]
  refine ⟨⟨n, started, outcome, finished⟩, rfl, ?_⟩
  rcases hverdict : outcome.toVerdict with f | v
  · -- a node that failed leaves an entry only if its failure can be described
    rw [hverdict] at hmark
    obtain ⟨hnone, -⟩ | ⟨_, text, ⟨⟩, htold, rfl, rfl⟩ := mark_eq_ok_iff.mp hmark
    · cases hnone
    obtain rfl := Failure.eq_describe_of_description htold
    refine ⟨.failed hverdict htold (entryAt_marked hread _ _), ?_⟩
    simp only [Turn.stops, Turn.events, Turn.result, hverdict]
    exact ⟨trivial, trivial, hhistory, by simp [hlog, failureOf?]⟩
  · rw [hverdict] at hmark
    obtain ⟨-, rfl, rfl⟩ | ⟨_, _, hsome, -⟩ := mark_eq_ok_iff.mp hmark
    · refine ⟨.succeeded hverdict hread, ?_⟩
      simp only [Turn.stops, Turn.events, Turn.result, hverdict]
      exact ⟨trivial, trivial, hhistory, by simp [hlog, failureOf?]⟩
    · cases hsome

/-- Skipped nodes are passed over one after another. -/
theorem skipNodes_recorded {nodes : List Node} {s s' : Logged (Recorded σ)} {entries : List Entry}
    (h : skipNodes (clock.recorded .time) runId nodes s = (.ok entries, s')) :
    ∃ passes : List Pass, passes.map (·.node) = nodes ∧
      List.Forall₂ Pass.Leaves passes entries ∧
      s'.state.history = s.state.history ++ passes.map Pass.exchange ∧
      s'.log = s.log ++ passes.map (Pass.event runId) := by
  induction nodes generalizing s entries with
  | nil =>
    obtain ⟨rfl, rfl⟩ := Act.pure_eq_ok_iff.mp h
    exact ⟨[], rfl, .nil, by simp, by simp⟩
  | cons n rest ih =>
    simp only [skipNodes_cons, skip, Act.bind_eq_ok_iff, Act.pure_eq_ok_iff] at h
    obtain ⟨entry, s₁, ⟨time, t₁, htime, _, t₂, hentry, _, _, hnote, rfl, rfl⟩, later, s₂, hrest,
      rfl, rfl⟩ := h
    obtain ⟨hlog₁, hhistory₁⟩ := lift_recorded htime
    obtain ⟨hread, rfl⟩ := checkedAs_eq_ok_iff.mp hentry
    rw [note_eq_ok_iff] at hnote
    subst hnote
    obtain ⟨passes, rfl, hentries, hhistory, hlog⟩ := ih hrest
    refine ⟨⟨n, time⟩ :: passes, rfl, .cons hread hentries, ?_, ?_⟩
    · rw [hhistory, hhistory₁]
      simp [Pass.exchange]
    · rw [hlog, hlog₁]
      simp [Pass.event]

end Nodes

/-! ## Chains -/

/-- The course of a chain: turns that let it go on, and then either its end or a turn that stops it
and passes over the rest. -/
inductive Course : List Node → List Turn → List Pass → Prop
  | nil : Course [] [] []
  | halt {t : Turn} {passes : List Pass} (hstops : t.stops = true) :
      Course (t.node :: passes.map (·.node)) [t] passes
  | next {t : Turn} {nodes : List Node} {turns : List Turn} {passes : List Pass}
      (hstops : t.stops = false) (rest : Course nodes turns passes) :
      Course (t.node :: nodes) (t :: turns) passes

/-! ### Progress -/

/-- A chain knows of a first failure iff it knows that a node has failed. -/
def Progress.IsConsistent (p : Progress) : Prop := p.hadFailures = p.error.isSome

theorem Progress.IsConsistent.add {p : Progress} (h : p.IsConsistent) (n : Node) (v : Visit) :
    (p.add n v).IsConsistent := by
  unfold IsConsistent Progress.add at *
  cases v.failure? with
  | none => exact h
  | some f => cases hp : p.error <;> rfl

theorem Progress.IsConsistent.extend {p : Progress} (h : p.IsConsistent) (entries : List Entry) :
    (p.extend entries).IsConsistent := h

theorem Progress.entries_add (p : Progress) (n : Node) (v : Visit) :
    (p.add n v).entries = p.entries ++ [v.entry] := by
  unfold Progress.add
  cases v.failure? <;> rfl

theorem Progress.error_add (p : Progress) (n : Node) (v : Visit) :
    (p.add n v).error = p.error.or (v.failure?.map fun f => ⟨n.id, f⟩) := by
  unfold Progress.add
  cases v.failure? <;> cases p.error <;> rfl

/-- The nodes of a chain keep what it knows of failures consistent. -/
theorem isConsistent_runNodes {runner : Runner σ} {clock : Act Failure σ Json} {runId : String}
    {nodes : List Node} {p p' : Progress} {s s' : Logged σ}
    (h : runNodes runner clock runId p nodes s = (.ok p', s')) (hp : p.IsConsistent) :
    p'.IsConsistent := by
  induction nodes generalizing p s with
  | nil =>
    obtain ⟨rfl, rfl⟩ := Act.pure_eq_ok_iff.mp h
    exact hp
  | cons n rest ih =>
    obtain ⟨v, s₁, -, h⟩ := Act.bind_eq_ok_iff.mp h
    split at h
    · obtain ⟨later, s₂, -, h⟩ := Act.bind_eq_ok_iff.mp h
      obtain ⟨rfl, rfl⟩ := Act.pure_eq_ok_iff.mp h
      exact (hp.add n v).extend later
    · exact ih h (hp.add n v)

/-- What the turns and passes of a chain leave behind: the record of the host, the log, the entries
of the trace and the first failure. -/
structure Leaves (runId : String) (turns : List Turn) (passes : List Pass)
    (s s' : Logged (Recorded σ)) (p p' : Progress) : Prop where
  history : s'.state.history =
    s.state.history ++ (turns.flatMap Turn.exchanges ++ passes.map Pass.exchange)
  log : s'.log = s.log ++ (turns.flatMap (Turn.events runId) ++ passes.map (Pass.event runId))
  entries : ∃ front back, p'.entries = p.entries ++ (front ++ back) ∧
    List.Forall₂ Turn.Leaves turns front ∧ List.Forall₂ Pass.Leaves passes back
  error : p'.error = p.error.or (turns.findSome? Turn.failure?)

/-- The nodes of a chain take a course, and leave behind what its turns and passes do. -/
theorem runNodes_recorded {runner : Runner σ} {clock : Act Failure σ Json} {runId : String}
    {nodes : List Node} {s s' : Logged (Recorded σ)} {p p' : Progress}
    (h : runNodes runner.recorded (clock.recorded .time) runId p nodes s = (.ok p', s')) :
    ∃ turns passes, Course nodes turns passes ∧ Leaves runId turns passes s s' p p' := by
  induction nodes generalizing s p with
  | nil =>
    obtain ⟨rfl, rfl⟩ := Act.pure_eq_ok_iff.mp h
    exact ⟨[], [], .nil, by simp, by simp, ⟨[], [], by simp, .nil, .nil⟩, by simp⟩
  | cons n rest ih =>
    simp only [runNodes, Act.bind_eq_ok_iff] at h
    obtain ⟨v, s₁, hvisit, h⟩ := h
    obtain ⟨t, rfl, hentry, hfailure, hstops, hhistory, hlog⟩ := visit_recorded hvisit
    have herror : (p.add t.node v).error = p.error.or t.failure? := by
      rw [Progress.error_add, hfailure]
      rfl
    rw [hstops] at h
    -- a turn that stops the chain is its last, and the other nodes are passed over
    split at h
    · rename_i hstop
      obtain ⟨later, s₂, hskip, h⟩ := Act.bind_eq_ok_iff.mp h
      obtain ⟨rfl, rfl⟩ := Act.pure_eq_ok_iff.mp h
      obtain ⟨passes, rfl, hentries, hhistory', hlog'⟩ := skipNodes_recorded hskip
      refine ⟨[t], passes, .halt hstop, ?_, ?_,
        ⟨[v.entry], later, ?_, .cons hentry .nil, hentries⟩, ?_⟩
      · rw [hhistory', hhistory]
        simp
      · rw [hlog', hlog]
        simp
      · rw [Progress.extend, Progress.entries_add, List.append_assoc]
      · rw [Progress.extend, herror, List.findSome?_cons]
        cases t.failure? <;> rfl
    · rename_i hgoes
      obtain ⟨turns, passes, hcourse, hleaves⟩ := ih h
      obtain ⟨front, back, hentries, hfront, hback⟩ := hleaves.entries
      refine ⟨t :: turns, passes, .next (by simpa using hgoes) hcourse, ?_, ?_,
        ⟨v.entry :: front, back, ?_, .cons hentry hfront, hback⟩, ?_⟩
      · rw [hleaves.history, hhistory]
        simp
      · rw [hleaves.log, hlog]
        simp
      · rw [hentries, Progress.entries_add, List.append_assoc, List.singleton_append,
          List.cons_append]
      · rw [hleaves.error, herror, List.findSome?_cons, Option.or_assoc]
        cases t.failure? <;> rfl

/-! ## Whole runs -/

/-- The story of a run: its id, the time at which it began, its turns and passes, and what the clock
said at the end. -/
structure Story where
  runId : String
  started : String
  turns : List Turn
  passes : List Pass
  finished : Json

namespace Story

/-- What the host was asked, and what it answered, from beginning to end. -/
def exchanges (st : Story) : List Exchange :=
  .runId (.ok (.string st.runId)) :: .time (.ok (.string st.started)) ::
    (st.turns.flatMap Turn.exchanges ++ st.passes.map Pass.exchange ++ [.time (.ok st.finished)])

/-- The first failure of a node, if one failed. -/
def error (st : Story) : Option NodeFailure := st.turns.findSome? Turn.failure?

/-- What the log says of the run. -/
def events (jobId : String) (nodes : Nat) (st : Story) : List Log.Event :=
  .runStarted st.runId jobId nodes ::
    (st.turns.flatMap (Turn.events st.runId) ++ st.passes.map (Pass.event st.runId) ++
      [.runFinished st.runId st.error.isSome])

/-- The story tells what a run of the nodes came to. -/
structure Tells (st : Story) (nodes : List Node) (r : RunResult) : Prop where
  course : Course nodes st.turns st.passes
  runId : r.trace.runId = st.runId
  started : r.trace.startedAt = st.started
  entries : ∃ front back, r.trace.entries = front ++ back ∧
    List.Forall₂ Turn.Leaves st.turns front ∧ List.Forall₂ Pass.Leaves st.passes back
  finished : readOptional readText st.finished = .ok r.trace.finishedAt
  hadFailures : r.trace.hadFailures = st.error.isSome
  error : r.error = st.error

end Story

/-- A trace begins iff the id and the time are texts. -/
theorem traceAt_eq_ok_iff {runId started : Json} {t : Trace} :
    traceAt runId started = .ok t ↔
      runId = .string t.runId ∧ started = .string t.startedAt ∧
        t = ⟨t.runId, t.startedAt, none, false, []⟩ := by
  simp only [traceAt, Checked.take_eq_ok_iff, Checked.at_eq_ok_iff, readText_eq_ok_iff,
    Except.ok.injEq]
  constructor
  · rintro ⟨_, startedAt, ⟨_, id, rfl, hid, rfl⟩, hstarted, rfl⟩
    exact ⟨hid, hstarted, rfl⟩
  · rintro ⟨hid, hstarted, ht⟩
    exact ⟨_, t.startedAt, ⟨_, t.runId, rfl, hid, rfl⟩, hstarted, ht⟩

theorem present_eq_ok_iff {α : Type} {what : String} {a? : Option α} {a : α} {s s' : Logged σ} :
    present what a? s = (.ok a, s') ↔ a? = some a ∧ s' = s := by
  cases a? with
  | none => simp [present]
  | some b => simp [present, eq_comm]

/-- Every run that returns has a story, and the record of the host, the log and the result tell
it. -/
theorem exists_story {host : Host σ} {jobId : String} {plan? : Option Plan}
    {s s' : Logged (Recorded σ)} {r : RunResult}
    (h : run host.recorded jobId plan? s = (.ok r, s')) :
    ∃ plan st, plan? = some plan ∧ Story.Tells st plan.order r ∧
      s'.state.history = s.state.history ++ st.exchanges ∧
      s'.log = s.log ++ st.events jobId plan.order.length := by
  simp only [run, Host.recorded, Act.bind_eq_ok_iff, present_eq_ok_iff, Option.map_eq_some_iff] at h
  obtain ⟨plan, _, ⟨hplan, rfl⟩, _, _, ⟨⟨runner, -, rfl⟩, rfl⟩, _, _, ⟨⟨clock, -, rfl⟩, rfl⟩, _, _,
    ⟨⟨runIds, -, rfl⟩, rfl⟩, h⟩ := h
  simp only [runWith, Act.bind_eq_ok_iff, Act.pure_eq_ok_iff, checkedAs_eq_ok_iff,
    note_eq_ok_iff] at h
  obtain ⟨id, s₁, hid, started, s₂, hstarted, begun, _, ⟨hbegun, rfl⟩, _, s₃, rfl, p, s₄,
    hnodes, finished, _, hfinished, finishedAt, s₅, ⟨hread, rfl⟩, _, _, rfl, rfl, rfl⟩ := h
  obtain ⟨rfl, rfl, hbegun⟩ := traceAt_eq_ok_iff.mp hbegun
  obtain ⟨hlog₁, hhistory₁⟩ := lift_recorded hid
  obtain ⟨hlog₂, hhistory₂⟩ := lift_recorded hstarted
  obtain ⟨turns, passes, hcourse, hleaves⟩ := runNodes_recorded hnodes
  obtain ⟨hlog₅, hhistory₅⟩ := lift_recorded hfinished
  have hfailures : p.hadFailures = (turns.findSome? Turn.failure?).isSome := by
    have hconsistent : p.IsConsistent := isConsistent_runNodes hnodes rfl
    rw [hconsistent, hleaves.error]
    rfl
  refine ⟨plan, ⟨begun.runId, begun.startedAt, turns, passes, finished⟩, hplan, ?_, ?_, ?_⟩
  · exact
      { course := hcourse
        runId := rfl
        started := rfl
        entries := by simpa using hleaves.entries
        finished := Checked.at_eq_ok_iff.mp hread
        hadFailures := hfailures
        error := hleaves.error }
  · show s₅.state.history = _
    rw [hhistory₅, hleaves.history, hhistory₂, hhistory₁]
    simp [Story.exchanges]
  · show s₅.log ++ _ = _
    rw [hlog₅, hleaves.log, hlog₂, hlog₁, hfailures]
    simp [Story.events, Story.error]

end JobChain
