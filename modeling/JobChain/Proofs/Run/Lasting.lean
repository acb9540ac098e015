import JobChain.Proofs.Run.Relating

/-!
# How long runs last

A host may keep a time in its state.  If the clock moves it by some amount at each reading, and the
runner by some amount on each node, then a run moves it by the sum of these at most: the clock is
read twice for a node that is run, once for one that is skipped, and twice for the run itself.  This
holds of runs that fail, too, and of clocks that go back.

* `Act.Lasts`: an act moves the time by some amount at most, in either direction.
* `lengthOf`: how long some nodes last.
* `lasts_run`: how long a run lasts.
-/

namespace JobChain

variable {ε σ α β : Type} {time : σ → Int} {amount later : Nat}

/-- The act moves the time by an amount at most, in either direction. -/
def Act.Lasts (time : σ → Int) (amount : Nat) (x : Act ε σ α) : Prop :=
  ∀ s, time s - amount ≤ time (x s).2 ∧ time (x s).2 ≤ time s + amount

namespace Act.Lasts

/-- An act that leaves the time as it is lasts no time at all. -/
theorem of_eq {x : Act ε σ α} (h : ∀ s, time (x s).2 = time s) : Lasts time 0 x := by
  intro s
  rw [h]
  omega

theorem pure (a : α) : Lasts time 0 (pure a : Act ε σ α) := of_eq fun _ => rfl

theorem fail (e : ε) : Lasts time 0 (fail e : Act ε σ α) := of_eq fun _ => rfl

theorem mono {x : Act ε σ α} (hx : Lasts time amount x) (h : amount ≤ later) :
    Lasts time later x := by
  intro s
  obtain ⟨hback, hforth⟩ := hx s
  omega

theorem bind {x : Act ε σ α} {f : α → Act ε σ β} (hx : Lasts time amount x)
    (hf : ∀ a, Lasts time later (f a)) : Lasts time (amount + later) (x >>= f) := by
  intro s
  obtain ⟨hback, hforth⟩ := hx s
  rw [bind_apply]
  rcases hrun : x s with ⟨e | a, t⟩
  · rw [hrun] at hback hforth
    dsimp only at hback hforth ⊢
    omega
  · rw [hrun] at hback hforth
    obtain ⟨hback', hforth'⟩ := hf a t
    dsimp only at hback hforth ⊢
    omega

end Act.Lasts

open Act (Lasts)

/-! ## Runs -/

section Runs

variable {clock runIds : Act Failure σ Json} {runner : Runner σ} {tick : Nat} {cost : Node → Nat}

/-- The time of a host, beside a log. -/
def timeOf (time : σ → Int) (s : Logged σ) : Int := time s.state

/-- How long some nodes last, given how long a reading of the clock and each of them last. -/
def lengthOf (tick : Nat) (cost : Node → Nat) : List Node → Nat
  | [] => 0
  | n :: rest => 2 * tick + cost n + lengthOf tick cost rest

theorem lengthOf_cons (n : Node) (rest : List Node) :
    lengthOf tick cost (n :: rest) = 2 * tick + cost n + lengthOf tick cost rest := rfl

/-- Nodes last no time if the clock does not move and no node costs any. -/
theorem lengthOf_eq_zero (htick : tick = 0) (hcost : ∀ n, cost n = 0) (nodes : List Node) :
    lengthOf tick cost nodes = 0 := by
  induction nodes with
  | nil => rfl
  | cons n rest ih => rw [lengthOf_cons, ih, htick, hcost]

theorem lasts_lift {act : Act ε σ α} (h : Lasts time amount act) :
    Lasts (timeOf time) amount (Logged.lift act) :=
  fun s => h s.state

theorem lasts_note (event : Log.Event) :
    Lasts (timeOf time) 0 (Logged.note event : Running σ Unit) :=
  .of_eq fun _ => rfl

theorem lasts_ofExcept (x : Except Failure α) :
    Lasts (timeOf time) 0 (Act.ofExcept x : Running σ α) := by
  cases x with
  | error f => exact .fail f
  | ok a => exact .pure a

theorem lasts_checkedAs (recordName : String) (x : Schema.Checked α) :
    Lasts (timeOf time) 0 (checkedAs recordName x : Running σ α) :=
  lasts_ofExcept _

theorem lasts_invoke {n : Node} (hn : Lasts time amount (runner.ask n)) :
    Lasts (timeOf time) amount (invoke runner n) := by
  show Lasts _ (amount + 0) _
  refine (lasts_lift hn).bind fun result => ?_
  cases result with
  | ok v => exact .pure _
  | error f =>
    show Lasts _ 0 (if _ then _ else _)
    split
    · exact .fail f
    · exact .pure _

theorem lasts_mark (runId : String) (n : Node) (entry : Entry) (failure? : Option Failure) :
    Lasts (timeOf time) 0 (mark runId n entry failure? : Running σ Entry) := by
  cases failure? with
  | none => exact .pure _
  | some f => exact (lasts_ofExcept _).bind fun _ => (lasts_note _).bind fun _ => .pure _

theorem lasts_visit (hclock : Lasts time tick clock) {n : Node}
    (hn : Lasts time (cost n) (runner.ask n)) (runId : String) :
    Lasts (timeOf time) (2 * tick + cost n) (visit runner clock runId n) := by
  have hvisit : Lasts (timeOf time) (tick + (cost n + (tick + 0))) (visit runner clock runId n) :=
    (lasts_lift hclock).bind fun _ => (lasts_invoke hn).bind fun _ =>
      (lasts_lift hclock).bind fun _ => (lasts_checkedAs _ _).bind fun entry =>
        (lasts_mark runId n entry _).bind fun _ => .pure _
  exact hvisit.mono (by omega)

theorem lasts_skipNodes (hclock : Lasts time tick clock) (runId : String) (nodes : List Node) :
    Lasts (timeOf time) (lengthOf tick cost nodes) (skipNodes clock runId nodes) := by
  induction nodes with
  | nil => exact .pure _
  | cons n rest ih =>
    rw [skipNodes_cons, lengthOf_cons]
    have hskip : Lasts (timeOf time) tick (skip clock runId n) :=
      (lasts_lift hclock).bind fun _ => (lasts_checkedAs _ _).bind fun _ =>
        (lasts_note _).bind fun _ => .pure _
    exact (hskip.bind fun _ => ih.bind fun _ => .pure _).mono (by omega)

theorem lasts_runNodes (hclock : Lasts time tick clock) {nodes : List Node}
    (hnodes : ∀ n ∈ nodes, Lasts time (cost n) (runner.ask n)) (runId : String) (p : Progress) :
    Lasts (timeOf time) (lengthOf tick cost nodes) (runNodes runner clock runId p nodes) := by
  induction nodes generalizing p with
  | nil => exact .pure _
  | cons n rest ih =>
    obtain ⟨hn, hrest⟩ := List.forall_mem_cons.mp hnodes
    rw [lengthOf_cons]
    refine (lasts_visit hclock hn runId).bind fun v => ?_
    show Lasts _ _ (if v.stops then _ else _)
    split
    · exact (lasts_skipNodes hclock runId rest).bind fun _ => .pure _
    · exact ih hrest _

theorem lasts_runWith (hclock : Lasts time tick clock) (hids : Lasts time 0 runIds) {plan : Plan}
    (hnodes : ∀ n ∈ plan.order, Lasts time (cost n) (runner.ask n)) (jobId : String) :
    Lasts (timeOf time) (2 * tick + lengthOf tick cost plan.order)
      (runWith runner clock runIds jobId plan) := by
  have hrun : Lasts (timeOf time) (0 + (tick + (0 + (0 + (lengthOf tick cost plan.order +
      (tick + 0)))))) (runWith runner clock runIds jobId plan) :=
    (lasts_lift hids).bind fun _ => (lasts_lift hclock).bind fun _ =>
      (lasts_checkedAs _ _).bind fun begun => (lasts_note _).bind fun _ =>
        (lasts_runNodes hclock hnodes begun.runId {}).bind fun _ =>
          (lasts_lift hclock).bind fun _ => (lasts_checkedAs _ _).bind fun _ =>
            (lasts_note _).bind fun _ => .pure _
  exact hrun.mono (by omega)

/-- A run lasts as long as its readings of the clock and its nodes. -/
theorem lasts_run {host : Host σ} (hrunner : host.runner = some runner)
    (hclock : host.clock = some clock) (hids : host.runIds = some runIds)
    (hclockLasts : Lasts time tick clock) (hidsLast : Lasts time 0 runIds) {plan : Plan}
    (hnodes : ∀ n ∈ plan.order, Lasts time (cost n) (runner.ask n)) (jobId : String) :
    Lasts (timeOf time) (2 * tick + lengthOf tick cost plan.order)
      (run host jobId (some plan)) := by
  obtain ⟨_, _, _⟩ := host
  subst hrunner hclock hids
  exact lasts_runWith hclockLasts hidsLast hnodes jobId

end Runs

end JobChain
