import JobChain.Proofs.Command.Tracing
import JobChain.Proofs.Run.Lasting

/-!
# How long runs of the program last

The time of a session moves when the clock is read and, where waits take time, when something is
waited for.  Nothing else changes it, printing in particular.  So the execution of a job stays in a
stretch of time that is known from its plan, and if the clock can tell all times of the stretch and
waits are not broken off, then the execution leaves a trace.

* `Surroundings.stretch`: how long the execution of a plan lasts at most, with `lasts_execute`.
* `Surroundings.KeepsTime`: the clock can tell the times of such a stretch.
* `exists_execute_of_keepsTime`: then a trace is left.
-/

namespace JobChain.Command

open Act (Lasts)

variable {w : Surroundings}

theorem lasts_mapError {ε ε' σ α : Type} {time : σ → Int} {amount : Nat} {x : Act ε σ α}
    (hx : Lasts time amount x) (f : ε → ε') : Lasts time amount (x.mapError f) :=
  fun s => hx s

theorem lasts_attempt {ε ε' σ α : Type} {time : σ → Int} {amount : Nat} {x : Act ε σ α}
    (hx : Lasts time amount x) : Lasts time amount (x.attempt : Act ε' σ (Except ε α)) :=
  fun s => hx s

/-! ## Printing -/

section Printing

variable {console : Console}

theorem lasts_print (text : String) : Lasts Session.time 0 (Session.print console text) := by
  refine .of_eq fun s => ?_
  unfold Session.print Session.shown
  rw [Act.bind_apply]
  cases console.render text <;> rfl

theorem lasts_say (text : String) : Lasts (timeOf Session.time) 0 (say w text) :=
  lasts_mapError (lasts_lift (lasts_print text)) _

theorem lasts_giveUp {α : Type} (reason : String) :
    Lasts (timeOf Session.time) 0 (giveUp w reason : Commanding α) :=
  (lasts_say _).bind fun _ => .fail _

theorem lasts_tell (result : Except Failure RunResult) :
    Lasts (timeOf Session.time) 0 (tell w result) := by
  cases result with
  | ok r => exact .pure r
  | error f =>
    rcases tell_error w f with ⟨text, htell⟩ | ⟨g, htell⟩ <;> rw [htell]
    · exact lasts_giveUp text
    · exact .fail _

end Printing

/-! ## Nodes -/

theorem lasts_readClock : Lasts Session.time w.step.natAbs (readClock w) := by
  intro s
  unfold readClock
  cases Clock.timeText s.time <;> dsimp only <;> omega

/-- How far a wait of some seconds takes the time on. -/
def Surroundings.waitTime (w : Surroundings) (seconds : Int) : Nat :=
  if w.waitsTakeTime then seconds.toNat else 0

theorem lasts_wait {seconds : Int} (hseconds : 0 ≤ seconds) :
    Lasts Session.time (w.waitTime seconds) (wait w seconds) := by
  unfold wait
  split
  · exact (Lasts.fail _).mono (Nat.zero_le _)
  show Lasts _ _ (Session.note (.waited seconds) >>= fun _ => _)
  rw [← Nat.zero_add (w.waitTime seconds)]
  refine Lasts.bind (.of_eq fun _ => rfl) fun _ => ?_
  cases w.waitFailure with
  | some failure => exact (Lasts.fail _).mono (Nat.zero_le _)
  | none =>
    show Lasts _ _ (if w.waitsTakeTime then _ else _)
    unfold Surroundings.waitTime
    split
    · intro s
      dsimp only [Act.modify_apply]
      omega
    · exact .pure ()

theorem lasts_sleepDelay (seconds : Int) :
    Lasts Session.time (w.waitTime seconds) (sleepDelay (wait w) seconds) := by
  unfold sleepDelay
  split
  · exact (Lasts.fail _).mono (Nat.zero_le _)
  · split
    · exact (Lasts.pure _).mono (Nat.zero_le _)
    · exact lasts_wait (by omega)

theorem time_settleIgnoring_echo (echoes : Bool) (j : Job) (text : String) (s : Session) :
    (settleIgnoring (echo w echoes j text) s).2.time = s.time := by
  unfold echo
  rw [settleIgnoring_act]
  cases echoes with
  | false => rfl
  | true =>
    have hprint := @lasts_print w.console (deliveryLine w j text) s
    rw [if_pos rfl]
    dsimp only
    omega

theorem time_deliver (echoes : Bool) (j : Job) (n : Node) (s : Session) :
    (deliver (some (echo w echoes)) j n s).2.time = s.time := by
  unfold deliver
  dsimp only
  split
  · rfl
  · exact time_settleIgnoring_echo echoes j _ s

theorem lasts_settleIgnoring_waitDelay (seconds : Int) (s : Session) :
    s.time - w.waitTime (w.settings.cutDelay seconds) ≤
        (settleIgnoring (waitDelay w seconds) s).2.time ∧
      (settleIgnoring (waitDelay w seconds) s).2.time ≤
        s.time + w.waitTime (w.settings.cutDelay seconds) := by
  unfold waitDelay sleepEffect
  rw [settleIgnoring_act]
  exact lasts_sleepDelay _ s

/-- How far the run of a node moves the time. -/
def Surroundings.nodeTime (w : Surroundings) (n : Node) : Nat :=
  w.waitTime (w.settings.cutDelay n.delaySeconds)

theorem lasts_ask (echoes : Bool) (j : Job) (n : Node) :
    Lasts Session.time (w.nodeTime n) (((service w echoes).runner j).ask n) := by
  intro s
  have hstill : s.time - w.nodeTime n ≤ s.time ∧ s.time ≤ s.time + w.nodeTime n := by omega
  rw [Runner.ask_apply, Service.invoke_runner, service_eq, Service.runNode_ofBuiltins]
  dsimp only
  split
  · exact hstill
  split
  · exact lasts_settleIgnoring_waitDelay _ s
  split
  · dsimp only
    rw [time_deliver]
    exact hstill
  · exact hstill

/-! ## Executions -/

/-- How long the execution of a job lasts at most, if its workflow has the plan. -/
def Surroundings.stretch (w : Surroundings) (plan : Plan) : Nat :=
  2 * w.step.natAbs + lengthOf w.step.natAbs w.nodeTime plan.order

theorem lasts_execute {echoes : Bool} {j : Job} {plan : Plan}
    (h : (service w echoes).plan (j.workflow.map .ready) = .ok plan) :
    Lasts (timeOf Session.time) (w.stretch plan) (execute w echoes j) := by
  have hrun : Lasts (timeOf Session.time) (w.stretch plan) ((service w echoes).execute j) := by
    unfold Service.execute
    rw [h]
    exact lasts_run rfl rfl rfl lasts_readClock (.pure _)
      (fun n _ => lasts_ask echoes j n) j.id
  rw [execute_eq]
  exact (lasts_attempt hrun).bind lasts_tell

/-- The clock can tell all times that may come up while a job with a plan is executed. -/
def Surroundings.KeepsTime (w : Surroundings) (plan : Plan) (s : Session) : Prop :=
  ∀ time, s.time - w.stretch plan ≤ time → time ≤ s.time + w.stretch plan →
    ∃ text, Clock.timeText time = .ok text

/-- If waits are not broken off and the clock can tell the time, then the execution of a job whose
workflow has a plan leaves a trace of the plan. -/
theorem exists_execute_of_keepsTime (honours : w.console.Honours) (hwaits : w.IsUninterrupted)
    {echoes : Bool} {j : Job} {plan : Plan}
    (h : (service w echoes).plan (j.workflow.map .ready) = .ok plan) {s : Logged Session}
    (htime : w.KeepsTime plan s.state) :
    ∃ r t, execute w echoes j s = (.ok r, t) ∧ Traces w plan r := by
  obtain ⟨hvalue, hfailure⟩ := ends_execute honours h s
  obtain ⟨hback, hforth⟩ := lasts_execute h s
  rcases hexecute : execute w echoes j s with ⟨exit | r, t⟩
  · rw [hexecute] at hfailure hback hforth
    obtain ⟨f, -, error, herror, -⟩ := hfailure exit rfl hwaits
    obtain ⟨text, htext⟩ := htime t.state.time hback hforth
    cases herror.symm.trans htext
  · rw [hexecute] at hvalue
    exact ⟨r, t, rfl, hvalue r rfl⟩

end JobChain.Command
