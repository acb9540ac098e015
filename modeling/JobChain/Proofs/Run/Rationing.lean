import JobChain.Proofs.Run.Recording

/-!
# Runs on a clock that gives out

A clock that can be read a number of times, and then fails, changes nothing about a run but where it
ends.  The runner does not know how many readings are left, so as long as there are some the run
goes on as it would on a clock without end.  The first reading that is asked for and not there ends
it: nothing in a run stands between a failure of the clock and the end of the run.

* `Recorded.readings`: what the clock answered in a run, in order.
* `Host.rationed`: the host whose clock gives out after a number of readings.
* `run_rationed`: what its runs come to, told by the number of readings of the run without end.
-/

namespace JobChain

open Act (Mimics MimicsWithin)

variable {σ α : Type}

/-! ## Readings -/

/-- What the clock answered, if it was asked. -/
def Exchange.reading? : Exchange → Option (Except Failure Json)
  | time answer => some answer
  | _ => none

/-- What the clock answered, in order. -/
def Recorded.readings (r : Recorded σ) : List (Except Failure Json) :=
  r.history.filterMap Exchange.reading?

theorem readings_append (s s' : σ) (history later : List Exchange) :
    Recorded.readings ⟨s, history ++ later⟩ =
      Recorded.readings ⟨s', history⟩ ++ later.filterMap Exchange.reading? :=
  List.filterMap_append

/-! ## Hosts with a ration of readings -/

/-- The state of a host with the number of readings that its clock has left. -/
structure Rationed (σ : Type) where
  state : σ
  left : Nat

/-- The act, which takes no reading. -/
def Act.unrationed (act : Act Failure σ α) : Act Failure (Rationed σ) α := fun r =>
  ((act r.state).1, { r with state := (act r.state).2 })

/-- The clock, which takes a reading if one is left and fails otherwise. -/
def Act.rationed (exhausted : Failure) (clock : Act Failure σ Json) :
    Act Failure (Rationed σ) Json := fun r =>
  match r.left with
  | 0 => (.error exhausted, r)
  | left + 1 => ((clock r.state).1, ⟨(clock r.state).2, left⟩)

/-- The work of a reply, which takes no reading. -/
def Reply.unrationedWork (work : σ → Outcome × σ) (r : Rationed σ) : Outcome × Rationed σ :=
  ((work r.state).1, { r with state := (work r.state).2 })

/-- The runner, which takes no readings and does not see how many are left. -/
def Runner.unrationed (runner : Runner σ) : Runner (Rationed σ) := fun n r =>
  match runner n r.state with
  | (.now outcome, s) => (.now outcome, { r with state := s })
  | (.later work, s) => (.later (Reply.unrationedWork work), { r with state := s })

/-- The host whose clock fails once its readings have been taken. -/
def Host.rationed (exhausted : Failure) (host : Host σ) : Host (Rationed σ) where
  runner := host.runner.map .unrationed
  clock := host.clock.map (.rationed exhausted)
  runIds := host.runIds.map .unrationed

theorem Runner.ask_unrationed (runner : Runner σ) (n : Node) :
    runner.unrationed.ask n = (runner.ask n).unrationed := by
  funext r
  simp only [Runner.ask, Runner.invoke, Runner.unrationed, Act.unrationed]
  rcases runner n r.state with ⟨outcome | work, s⟩
  · rfl
  · rfl

/-! ## Runs under a ration -/

/-- How many readings have been taken. -/
def Recorded.taken (r : Recorded σ) : Nat := r.readings.length

/-- The state of a host under a ration, from the record of what it did without one. -/
def Recorded.ration (total : Nat) (r : Recorded σ) : Rationed σ where
  state := r.state
  left := total - r.taken

section Rationing

variable {total : Nat} {exhausted : Failure}

theorem mimicsWithin_lift {τ : Type} {count : σ → Nat} {bound : Nat} {failure : Failure}
    {image : σ → τ} {x : Act Failure σ α} {y : Act Failure τ α}
    (h : MimicsWithin count bound failure image x y) :
    MimicsWithin (fun s => count s.state) bound failure (Logged.map image) (Logged.lift x)
      (Logged.lift y) where
  grows s := h.grows s.state
  within s hbound := by
    show (_, _) = (_, _)
    rw [show (s.map image).state = image s.state from rfl, h.within s.state hbound]
    rfl
  beyond s hs hbound := h.beyond s.state hs hbound

/-- What acts mimic up to a bound can be followed along a run. -/
theorem runRelation_mimicsWithin {τ : Type} (count : σ → Nat) (bound : Nat) (failure : Failure)
    (image : σ → τ) :
    RunRelation (fun {_} x y =>
      MimicsWithin (fun s => count s.state) bound failure (Logged.map image) x y) where
  pure a := .of_mimics (.pure a) fun _ => rfl
  fail f := .of_mimics (.fail f) fun _ => rfl
  note event := .of_mimics (mimics_note event) fun _ => rfl
  bind := .bind

/-- An act that takes no readings does under a ration what it does under a record. -/
theorem mimicsWithin_unrationed {x : Act Failure (Recorded σ) α} {act : Act Failure σ α}
    (hvalue : ∀ r, (x r).1 = (act r.state).1) (hstate : ∀ r, (x r).2.state = (act r.state).2)
    (htaken : ∀ r, (x r).2.taken = r.taken) :
    MimicsWithin Recorded.taken total exhausted (Recorded.ration total) x act.unrationed := by
  refine .of_mimics (fun r => ?_) htaken
  rw [Recorded.ration, Recorded.ration, htaken, hvalue, hstate]
  rfl

theorem taken_append (s s' : σ) (history later : List Exchange) :
    Recorded.taken ⟨s, history ++ later⟩ =
      Recorded.taken ⟨s', history⟩ + (later.filterMap Exchange.reading?).length := by
  rw [Recorded.taken, readings_append s s', List.length_append]
  rfl

/-- Reading the clock under a ration takes a reading, if one is left. -/
theorem mimicsWithin_rationed (clock : Act Failure σ Json) :
    MimicsWithin Recorded.taken total exhausted (Recorded.ration total) (clock.recorded .time)
      (clock.rationed exhausted) := by
  have htaken (r : Recorded σ) : (clock.recorded .time r).2.taken = r.taken + 1 :=
    taken_append _ r.state r.history _
  constructor
  case grows =>
    intro r
    rw [htaken]
    exact Nat.le_succ _
  case within =>
    intro r hbound
    rw [htaken] at hbound
    have hleft : total - r.taken = total - (r.taken + 1) + 1 := by omega
    rw [Recorded.ration, Recorded.ration, htaken, hleft]
    rfl
  case beyond =>
    intro r hr hbound
    rw [htaken] at hbound
    have hleft : total - r.taken = 0 := by omega
    rw [Recorded.ration, hleft]
    rfl

/-- Asking the runner takes no readings. -/
theorem mimicsWithin_ask (runner : Runner σ) (n : Node) :
    MimicsWithin Recorded.taken total exhausted (Recorded.ration total) (runner.recorded.ask n)
      (runner.unrationed.ask n) := by
  rw [runner.ask_unrationed n]
  have hverdict (r : Recorded σ) :
      (runner.recorded.ask n r).1 = (runner.ask n r.state).1 := by
    obtain ⟨outcome, hverdict, hinvoke⟩ := runner.invoke_recorded n r
    rw [Runner.ask_apply, Runner.ask_apply, hinvoke, hverdict]
  refine mimicsWithin_unrationed hverdict (fun r => ?_) fun r => ?_
  · obtain ⟨outcome, -, hinvoke⟩ := runner.invoke_recorded n r
    rw [Runner.ask_apply, hinvoke]
    rfl
  · -- what is recorded of the runner are a question and an answer
    obtain ⟨outcome, -, hinvoke⟩ := runner.invoke_recorded n r
    rw [Runner.ask_apply, hinvoke]
    exact taken_append _ r.state r.history _

/-- Asking for an id takes no readings. -/
theorem mimicsWithin_runIds (runIds : Act Failure σ Json) :
    MimicsWithin Recorded.taken total exhausted (Recorded.ration total) (runIds.recorded .runId)
      runIds.unrationed :=
  mimicsWithin_unrationed (fun _ => rfl) (fun _ => rfl) fun r =>
    taken_append _ r.state r.history _

/-- What a recorded host does, its rationed counterpart does until the readings are taken. -/
theorem Host.related_rationed (host : Host σ) (nodes : List Node) :
    host.recorded.Related (fun {_} x y => MimicsWithin (fun s => s.state.taken) total exhausted
      (Logged.map (Recorded.ration total)) x y) nodes (host.rationed exhausted) where
  runner := optionRel_map Runner.recorded Runner.unrationed fun runner n _ =>
    mimicsWithin_lift (mimicsWithin_ask runner n)
  clock := optionRel_map (Act.recorded .time) (Act.rationed exhausted) fun clock =>
    mimicsWithin_lift (mimicsWithin_rationed clock)
  runIds := optionRel_map (Act.recorded .runId) Act.unrationed fun runIds =>
    mimicsWithin_lift (mimicsWithin_runIds runIds)

/-- A run under a ration comes to what the run without one comes to, if its readings are enough for
that run, and is ended by the failure of the clock if they are not. -/
theorem run_rationed (exhausted : Failure) (host : Host σ) (jobId : String) (plan : Option Plan)
    (s : Logged σ) (total : Nat) :
    (run (host.rationed exhausted) jobId plan ⟨⟨s.state, total⟩, s.log⟩).1 =
      if total < (run host.recorded jobId plan ⟨{ state := s.state }, s.log⟩).2.state.taken then
        .error exhausted
      else (run host jobId plan s).1 := by
  cases plan with
  | none => rfl
  | some plan =>
    have h := related_run (runRelation_mimicsWithin Recorded.taken total exhausted
      (Recorded.ration total)) (host.related_rationed plan.order) jobId
    have hrun := congrArg Prod.fst
      (run_recorded host jobId (some plan) ⟨{ state := s.state }, s.log⟩)
    split
    · exact h.beyond ⟨{ state := s.state }, s.log⟩ (Nat.zero_le _) ‹_›
    · exact (congrArg Prod.fst (h.within ⟨{ state := s.state }, s.log⟩
        (Nat.le_of_not_lt ‹_›))).trans hrun.symm

end Rationing

end JobChain
