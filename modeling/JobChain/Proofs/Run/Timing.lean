import JobChain.Proofs.Run.Frame
import JobChain.Proofs.Run.Meaning
import JobChain.Proofs.Run.Rationing

/-!
# Times of a trace

The clock is read when a run begins, before and after every node that has its turn, once for every
node that is passed over, and when the run ends.  The trace keeps every reading, in the order in
which they were taken, and nothing else.  So the trace goes back in time only if the clock does, and
from the trace one can tell how many readings the run took, and so whether a clock that gives out
would have lasted.

* `Trace.stamps`, `Trace.times`: the times of a trace, those of a skipped node once or twice.
* `Trace.IsTimedBy`: the readings in a record are the times of a trace.
* `Story.Tells.isTimedBy`: so it is for the record and the trace of one story.
* `times_of_run`: so it is for every run that returns, and what runs come to if the clock gives out.
-/

namespace JobChain

variable {σ : Type}

/-! ## Times and readings -/

/-- The times of an entry. -/
def Entry.times (e : Entry) : List String := e.startedAt :: e.finishedAt.toList

/-- The times of an entry, that of a skipped node once. -/
def Entry.stamps (e : Entry) : List String :=
  if e.status = .skipped then [e.startedAt] else e.times

/-- The times of a trace in order: its first, those of its entries, and its last. -/
def Trace.times (t : Trace) : List String :=
  t.startedAt :: (t.entries.flatMap Entry.times ++ t.finishedAt.toList)

/-- The times of a trace in order, those of skipped nodes once. -/
def Trace.stamps (t : Trace) : List String :=
  t.startedAt :: (t.entries.flatMap Entry.stamps ++ t.finishedAt.toList)

/-- The reading of a clock that told a time. -/
def told (time : String) : Except Failure Json := .ok (.string time)

theorem told_inj {time time' : String} (h : told time = told time') : time = time' :=
  Json.string.inj (Except.ok.inj h)

/-- A clock whose values are texts.  It may fail. -/
def Act.TellsTexts (clock : Act Failure σ Json) : Prop :=
  ∀ s j, (clock s).1 = .ok j → ∃ text, j = .string text

/-- Readings that never go back, in an order of times. -/
def RisingIn (le : String → String → Prop) (readings : List (Except Failure Json)) : Prop :=
  readings.Pairwise fun a b => ∀ time time', a = told time → b = told time' → le time time'

theorem risingIn_map_told_iff {le : String → String → Prop} {times : List String} :
    RisingIn le (times.map told) ↔ times.Pairwise le := by
  rw [RisingIn, List.pairwise_map]
  refine iff_of_eq (congrArg (fun R => List.Pairwise R times) ?_)
  funext a b
  refine propext ⟨fun h => h a b rfl rfl, fun h time time' ha hb => ?_⟩
  rwa [← told_inj ha, ← told_inj hb]

/-- An entry is complete: it has both times, and they are the same if its node was skipped. -/
structure Entry.IsTimed (e : Entry) : Prop where
  finished : e.finishedAt.isSome = true
  skipped : e.status = .skipped → e.finishedAt = some e.startedAt

/-- The readings in a record are the times of a trace, and the id of the trace was asked for once,
before them. -/
structure Trace.IsTimedBy (t : Trace) (record : Recorded σ) : Prop where
  runId : ∃ later, record.history = .runId (.ok (.string t.runId)) :: later ∧
    ∀ answer, .runId answer ∉ later
  readings : record.readings = t.stamps.map told
  length : record.readings.length =
    2 + 2 * t.entries.countP (fun e => e.status ≠ .skipped) +
      t.entries.countP (fun e => e.status = .skipped)
  entries : ∀ e ∈ t.entries, e.IsTimed
  finished : t.finishedAt.isSome = true
  rising : ∀ le : String → String → Prop, (∀ time, le time time) → RisingIn le record.readings →
    t.times.Pairwise le

/-! ## Traces with all their times -/

namespace Entry.IsTimed

variable {e : Entry}

theorem exists_times_eq (h : e.IsTimed) : ∃ finished, e.finishedAt = some finished ∧
    e.times = [e.startedAt, finished] := by
  obtain ⟨finished, hfinished⟩ := Option.isSome_iff_exists.mp h.finished
  exact ⟨finished, hfinished, by rw [Entry.times, hfinished]; rfl⟩

theorem stamps_of_skipped (hstatus : e.status = .skipped) : e.stamps = [e.startedAt] :=
  if_pos hstatus

theorem stamps_of_not_skipped (hstatus : e.status ≠ .skipped) : e.stamps = e.times :=
  if_neg hstatus

/-- The times of a skipped node are one stamp, told twice. -/
theorem times_of_skipped (h : e.IsTimed) (hstatus : e.status = .skipped) :
    e.times = [e.startedAt, e.startedAt] := by
  rw [Entry.times, h.skipped hstatus]
  rfl

theorem mem_times_iff (h : e.IsTimed) {time : String} : time ∈ e.times ↔ time ∈ e.stamps := by
  by_cases hstatus : e.status = .skipped
  · rw [h.times_of_skipped hstatus, stamps_of_skipped hstatus]
    simp
  · rw [stamps_of_not_skipped hstatus]

theorem pairwise_times (h : e.IsTimed) {le : String → String → Prop} (hrefl : ∀ time, le time time)
    (hstamps : e.stamps.Pairwise le) : e.times.Pairwise le := by
  by_cases hstatus : e.status = .skipped
  · rw [h.times_of_skipped hstatus]
    simp [hrefl]
  · rwa [stamps_of_not_skipped hstatus] at hstamps

end Entry.IsTimed

/-- The entries of nodes that had their turn have two stamps, the others one. -/
theorem length_flatMap_stamps {entries : List Entry} (h : ∀ e ∈ entries, e.IsTimed) :
    (entries.flatMap Entry.stamps).length =
      2 * entries.countP (fun e => e.status ≠ .skipped) +
        entries.countP (fun e => e.status = .skipped) := by
  induction entries with
  | nil => rfl
  | cons e rest ih =>
    obtain ⟨he, hrest⟩ := List.forall_mem_cons.mp h
    rw [List.flatMap_cons, List.length_append, ih hrest, List.countP_cons, List.countP_cons]
    by_cases hstatus : e.status = .skipped
    · simp only [Entry.IsTimed.stamps_of_skipped hstatus, hstatus, ne_eq, not_true_eq_false,
        decide_false, decide_true, List.length_singleton, Bool.false_eq_true, if_false, if_true]
      omega
    · obtain ⟨finished, -, htimes⟩ := he.exists_times_eq
      simp only [Entry.IsTimed.stamps_of_not_skipped hstatus, htimes, hstatus, ne_eq,
        not_false_eq_true, decide_false, decide_true, List.length_cons, List.length_nil,
        Bool.false_eq_true, if_false, if_true]
      omega

/-- Times that are told twice in place of once do not go back either. -/
theorem pairwise_times {t : Trace} (h : ∀ e ∈ t.entries, e.IsTimed) {le : String → String → Prop}
    (hrefl : ∀ time, le time time) (hstamps : t.stamps.Pairwise le) : t.times.Pairwise le := by
  have hmem (time : String) :
      time ∈ t.entries.flatMap Entry.times ↔ time ∈ t.entries.flatMap Entry.stamps := by
    rw [List.mem_flatMap, List.mem_flatMap]
    exact exists_congr fun e => and_congr_right fun he => (h e he).mem_times_iff
  rw [Trace.stamps, List.pairwise_cons, List.pairwise_append, List.pairwise_flatMap] at hstamps
  obtain ⟨hfirst, ⟨hwithin, hacross⟩, hlast, hbefore⟩ := hstamps
  rw [Trace.times, List.pairwise_cons, List.pairwise_append, List.pairwise_flatMap]
  refine ⟨fun time htime => hfirst time ?_, ⟨fun e he => ?_, ?_⟩, hlast, fun time htime => ?_⟩
  · rwa [List.mem_append, ← hmem, ← List.mem_append]
  · exact (h e he).pairwise_times hrefl (hwithin e he)
  · refine hacross.imp_of_mem fun {e e'} he he' hle => ?_
    simpa only [(h e he).mem_times_iff, (h e' he').mem_times_iff] using hle
  · exact hbefore time ((hmem time).mp htime)

/-! ## Stories -/

/-- What the clock said before and after a turn. -/
def Turn.readings (t : Turn) : List (Except Failure Json) := [.ok t.started, .ok t.finished]

/-- What the clock said at a pass. -/
def Pass.readings (p : Pass) : List (Except Failure Json) := [.ok p.time]

/-- An entry is complete, and its times are some readings. -/
structure Entry.IsTimedBy (e : Entry) (readings : List (Except Failure Json)) : Prop where
  readings : readings = e.stamps.map told
  timed : e.IsTimed

/-- The entry of a turn is timed by the readings of the turn. -/
theorem Turn.Leaves.isTimedBy {t : Turn} {e : Entry} (h : t.Leaves e)
    (htext : ∃ text, t.finished = .string text) : e.IsTimedBy t.readings := by
  obtain ⟨node, _, outcome, _⟩ := t
  obtain ⟨finishedAt, rfl⟩ := htext
  obtain ⟨status, error, hstatus, hentry⟩ := h.exists_entryAt
  obtain ⟨startedAt, _, rfl, hfinished, rfl⟩ := entryAt_eq_ok_iff.mp hentry
  cases hfinished
  exact ⟨by rw [Entry.IsTimed.stamps_of_not_skipped hstatus]; rfl, rfl, fun h => absurd h hstatus⟩

/-- The entry of a pass is timed by its one reading. -/
theorem Pass.Leaves.isTimedBy {p : Pass} {e : Entry} (h : p.Leaves e) :
    e.IsTimedBy p.readings := by
  obtain ⟨node, _⟩ := p
  obtain ⟨time, _, rfl, htime, rfl⟩ := entryAt_eq_ok_iff.mp h
  cases htime
  exact ⟨rfl, rfl, fun _ => rfl⟩

/-- Entries that are each timed by some readings are timed by all of these, one after another. -/
theorem flatten_eq_of_forall₂ {readings : List (List (Except Failure Json))} {entries : List Entry}
    (h : List.Forall₂ (fun readings e => Entry.IsTimedBy e readings) readings entries) :
    readings.flatten = (entries.flatMap Entry.stamps).map told ∧ ∀ e ∈ entries, e.IsTimed := by
  induction h with
  | nil => simp
  | cons he _ ih =>
    rw [List.flatten_cons, List.flatMap_cons, List.map_append, ih.1, he.readings]
    exact ⟨rfl, List.forall_mem_cons.mpr ⟨he.timed, ih.2⟩⟩

namespace Story

variable {st : Story} {record : Recorded σ}

/-- The readings of a story, in order. -/
theorem readings_eq (h : record.history = st.exchanges) :
    record.readings = told st.started ::
      ((st.turns.map Turn.readings ++ st.passes.map Pass.readings).flatten ++
        [.ok st.finished]) := by
  have hturns : (st.turns.flatMap Turn.exchanges).filterMap Exchange.reading? =
      (st.turns.map Turn.readings).flatten := by
    rw [List.filterMap_flatMap]
    rfl
  have hpasses : (st.passes.map Pass.exchange).filterMap Exchange.reading? =
      (st.passes.map Pass.readings).flatten := by
    have hone : (Exchange.reading? ∘ Pass.exchange) = some ∘ fun p => .ok p.time := rfl
    rw [List.filterMap_map, hone, List.filterMap_eq_map, List.map_eq_flatMap]
    rfl
  rw [Recorded.readings, h, exchanges]
  simp only [List.filterMap_cons, List.filterMap_append, hturns, hpasses, List.flatten_append]
  rfl

/-- A story has its id first, and asks for no other. -/
theorem notMem_exchanges_tail (answer : Except Failure Json) :
    .runId answer ∉ st.exchanges.tail := by
  simp [exchanges, Turn.exchanges, Pass.exchange]

/-- The record and the trace of one story have the same times, if the clock told texts. -/
theorem Tells.isTimedBy {nodes : List Node} {r : RunResult} (h : st.Tells nodes r)
    (hhistory : record.history = st.exchanges)
    (htexts : ∀ j, .ok j ∈ record.readings → ∃ text, j = .string text) :
    r.trace.IsTimedBy record := by
  obtain ⟨front, back, hentries, hfront, hback⟩ := h.entries
  have hreadings := readings_eq hhistory
  have hturns : ∀ t ∈ st.turns, ∃ text, t.finished = .string text := by
    intro t ht
    refine htexts t.finished ?_
    rw [hreadings]
    refine List.mem_cons_of_mem _ (List.mem_append_left _ (List.mem_flatten.mpr ?_))
    exact ⟨t.readings, List.mem_append_left _ (List.mem_map_of_mem ht), by simp [Turn.readings]⟩
  have htimed : List.Forall₂ (fun readings e => Entry.IsTimedBy e readings)
      (st.turns.map Turn.readings ++ st.passes.map Pass.readings) r.trace.entries := by
    rw [hentries]
    refine List.rel_append ?_ ?_
    · refine List.forall₂_map_left_iff.mpr ?_
      exact ((List.forall₂_and_left _ _).mpr ⟨hturns, hfront⟩).imp
        fun t e ht => ht.2.isTimedBy ht.1
    · exact List.forall₂_map_left_iff.mpr (hback.imp fun _ _ hp => hp.isTimedBy)
  obtain ⟨hflatten, htimedEntries⟩ := flatten_eq_of_forall₂ htimed
  obtain ⟨last, hlast⟩ := htexts st.finished (by rw [hreadings]; simp)
  have hfinished : r.trace.finishedAt = some last := by
    have hread := h.finished
    rw [hlast] at hread
    exact (Except.ok.inj hread).symm
  have hstamps : record.readings = r.trace.stamps.map told := by
    rw [hreadings, hflatten, hlast, Trace.stamps, hfinished, ← h.started, List.map_cons,
      List.map_append]
    rfl
  refine ⟨⟨st.exchanges.tail, ?_, notMem_exchanges_tail⟩, hstamps, ?_, htimedEntries,
    by rw [hfinished]; rfl, fun le hrefl hrising => ?_⟩
  · rw [hhistory, h.runId]
    rfl
  · rw [hstamps, List.length_map, Trace.stamps, hfinished, List.length_cons, List.length_append,
      length_flatMap_stamps htimedEntries, Option.toList_some, List.length_singleton]
    omega
  · rw [hstamps, risingIn_map_told_iff] at hrising
    exact pairwise_times htimedEntries hrefl hrising

end Story

/-! ## Runs -/

/-- The readings in a record that are no failures are texts. -/
def Recorded.ReadsTexts (record : Recorded σ) : Prop :=
  ∀ j, .ok j ∈ record.readings → ∃ text, j = .string text

/-- What is asked beside the clock adds no readings. -/
theorem readsTexts_append_iff {record : Recorded σ} (s : σ) {later : List Exchange}
    (hlater : later.filterMap Exchange.reading? = []) :
    Recorded.ReadsTexts ⟨s, record.history ++ later⟩ ↔ record.ReadsTexts := by
  unfold Recorded.ReadsTexts
  rw [readings_append s record.state, hlater, List.append_nil]

/-- The readings of a clock that tells texts are texts, however a run ends. -/
theorem readsTexts_run {host : Host σ} {clock : Act Failure σ Json}
    (hclock : host.clock = some clock) (htexts : clock.TellsTexts) (jobId : String) (plan : Plan)
    (s : Logged σ) :
    (run host.recorded jobId (some plan) ⟨{ state := s.state }, s.log⟩).2.state.ReadsTexts := by
  refine keeps_run (P := Recorded.ReadsTexts) (fun runner hrunner n _ record hrecord => ?_)
    (fun clock' hclock' record hrecord => ?_) (fun runIds hids record hrecord => ?_) jobId
    ⟨{ state := s.state }, s.log⟩ (fun j hj => by cases hj)
  · obtain ⟨runner, -, rfl⟩ := Option.map_eq_some_iff.mp hrunner
    obtain ⟨outcome, -, hinvoke⟩ := runner.invoke_recorded n record
    rw [hinvoke]
    exact (readsTexts_append_iff _ rfl).mpr hrecord
  · obtain ⟨_, hsome, rfl⟩ := Option.map_eq_some_iff.mp hclock'
    cases hclock.symm.trans hsome
    intro j hj
    change .ok j ∈ Recorded.readings ⟨_, _ ++ _⟩ at hj
    rw [readings_append _ record.state] at hj
    rcases List.mem_append.mp hj with hj | hj
    · exact hrecord j hj
    · exact htexts record.state j (List.mem_singleton.mp hj).symm
  · obtain ⟨runIds, -, rfl⟩ := Option.map_eq_some_iff.mp hids
    exact (readsTexts_append_iff _ rfl).mpr hrecord

/-- With a clock that tells texts, the times in the trace of a run that returns are the readings of
the clock, all of them and in their order.  A clock that gives out ends the run with its failure iff
it has fewer readings than that, and in general a run whose clock gives out ends with this failure
if the run without end takes more readings, and as that run otherwise. -/
theorem times_of_run {host : Host σ} {clock : Act Failure σ Json} (hclock : host.clock = some clock)
    (htexts : clock.TellsTexts) (jobId : String) (plan : Plan) (s : Logged σ) :
    (∀ r s', run host jobId (some plan) s = (.ok r, s') →
      ∃ record : Recorded σ, record.state = s'.state ∧
        run host.recorded jobId (some plan) ⟨{ state := s.state }, s.log⟩ =
          (.ok r, ⟨record, s'.log⟩) ∧
        r.trace.IsTimedBy record ∧
        ∀ exhausted total,
          (run (host.rationed exhausted) jobId (some plan) ⟨⟨s.state, total⟩, s.log⟩).1 =
            .error exhausted ↔ total < record.readings.length) ∧
    ∀ exhausted total,
      (run (host.rationed exhausted) jobId (some plan) ⟨⟨s.state, total⟩, s.log⟩).1 =
        if total < (run host.recorded jobId (some plan)
            ⟨{ state := s.state }, s.log⟩).2.state.readings.length then .error exhausted
        else (run host jobId (some plan) s).1 := by
  have hrationed (exhausted : Failure) (total : Nat) :=
    run_rationed exhausted host jobId (some plan) s total
  refine ⟨fun r s' h => ?_, hrationed⟩
  obtain ⟨record, hstate, hrecorded⟩ := exists_record h
  obtain ⟨_, st, hplan, htells, hhistory, -⟩ := exists_story hrecorded
  cases hplan
  have hreads := readsTexts_run hclock htexts jobId plan s
  rw [hrecorded] at hreads
  refine ⟨record, hstate, hrecorded, htells.isTimedBy hhistory hreads, fun exhausted total => ?_⟩
  rw [hrationed, hrecorded, h]
  by_cases hfew : total < record.readings.length
  · exact iff_of_true (if_pos hfew) hfew
  · refine iff_of_false (fun hend => ?_) hfew
    cases (if_neg hfew).symm.trans hend

/-! ## A run by a timetable -/

/-- The clock that tells the times of a table, one after another. -/
def timetableClock : Act Failure (List String) Json
  | [] => (.error (.of .runtime "the table is at its end"), [])
  | time :: later => (.ok (.string time), later)

/-- A host with such a clock, whose runner fails at the nodes that let the chain go on, and is
cancelled at others. -/
def timetableHost : Host (List String) where
  runner := some fun n s =>
    (.now (.failure (.of (if n.continueOnError then .runtime else .cancelled) "")), s)
  clock := some timetableClock
  runIds := some fun s => (.ok (.string "run-1"), s)

theorem tellsTexts_timetableClock : timetableClock.TellsTexts := by
  intro s j h
  cases s with
  | nil => cases h
  | cons time later =>
    cases h
    exact ⟨time, rfl⟩

/-- A table of times, one more than a run of three nodes takes if the last is skipped. -/
def timetable : List String :=
  ["10:00", "10:01", "10:02", "10:02", "10:05", "10:06", "10:06", "10:09"]

theorem times_of_run_timetableHost :
    timetableHost.clock = some timetableClock ∧ timetableClock.TellsTexts ∧
      ∃ r s' record,
        run timetableHost "job" (some threeStepPlan) ⟨timetable, []⟩ = (.ok r, s') ∧
        r.trace.stamps = timetable.take 7 ∧
        r.trace.IsTimedBy (record : Recorded (List String)) ∧
        ∀ exhausted, (run (timetableHost.rationed exhausted) "job" (some threeStepPlan)
          ⟨⟨timetable, 6⟩, []⟩).1 = .error exhausted := by
  refine ⟨rfl, tellsTexts_timetableClock, ?_⟩
  have hstamps : (run timetableHost "job" (some threeStepPlan) ⟨timetable, []⟩).1.toOption.map
      (·.trace.stamps) = some (timetable.take 7) := by decide +kernel
  rcases hrun : run timetableHost "job" (some threeStepPlan) ⟨timetable, []⟩ with
    ⟨failure | r, s'⟩
  · rw [hrun] at hstamps
    cases hstamps
  · rw [hrun] at hstamps
    have hr : r.trace.stamps = timetable.take 7 := Option.some.inj hstamps
    have hclock : timetableHost.clock = some timetableClock := rfl
    obtain ⟨record, -, -, htimed, hout⟩ :=
      (times_of_run hclock tellsTexts_timetableClock "job" threeStepPlan _).1 r s' hrun
    refine ⟨r, s', record, rfl, hr, htimed, fun exhausted => (hout exhausted 6).mpr ?_⟩
    rw [htimed.readings, List.length_map, hr]
    decide

end JobChain
