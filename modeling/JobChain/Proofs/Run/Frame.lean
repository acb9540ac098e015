import JobChain.Proofs.Run.Recording
import Mathlib.Data.List.Forall2

/-!
# What a run leaves as it is

A run does nothing to the state of its host but ask the collaborators, and it asks the runner about
nodes of the plan only.  So what these leave as it is, the run leaves as it is, however it ends.
Applied to the record of a host, this says which nodes a runner can be asked about at all.

* `keeps_run`: a property that the collaborators keep is kept by the run.
* `mem_order_of_mem_asked`: a runner is asked about nodes of the plan and no others.
* `answers_of_run`: what is true of each of its verdicts is true of the outcomes on record.
-/

namespace JobChain

open Act (Keeps)

variable {σ : Type} {P : σ → Prop}

/-- A property of the state of a host, beside a log. -/
def Logged.OnState (P : σ → Prop) (s : Logged σ) : Prop := P s.state

theorem keeps_lift {α : Type} {act : Act Failure σ α} (h : Keeps P act) :
    Keeps (Logged.OnState P) (Logged.lift act) :=
  fun s hs => h s.state hs

/-- What an act keeps can be followed along a run. -/
theorem runRelation_keeps (P : σ → Prop) :
    RunRelation (fun {_} (x : Running σ _) (_ : Running σ _) => Keeps (Logged.OnState P) x) where
  pure := .pure
  fail := .fail
  note _ := fun _ hs => hs
  bind := .bind

/-- A property that the collaborators of a run keep is kept by the run.  The runner need keep it for
nodes of the plan only. -/
theorem keeps_run {host : Host σ} {plan : Plan}
    (hrunner : ∀ runner, host.runner = some runner →
      ∀ n ∈ plan.order, ∀ s, P s → P (runner.invoke n s).2)
    (hclock : ∀ clock, host.clock = some clock → Keeps P clock)
    (hids : ∀ runIds, host.runIds = some runIds → Keeps P runIds) (jobId : String) :
    Keeps (Logged.OnState P) (run host jobId (some plan)) := by
  have hself : host.Related (fun {_} x _ => Keeps (Logged.OnState P) x) plan.order host :=
    { runner := optionRel_self fun runner hr n hn => keeps_lift (hrunner runner hr n hn)
      clock := optionRel_self fun clock hc => keeps_lift (hclock clock hc)
      runIds := optionRel_self fun runIds hi => keeps_lift (hids runIds hi) }
  exact related_run (runRelation_keeps P) hself jobId

/-! ## What a runner is asked about -/

section Asked

variable {nodes : List Node}

theorem Recorded.asked_append (s s' : σ) (history later : List Exchange) :
    Recorded.asked ⟨s, history ++ later⟩ =
      Recorded.asked ⟨s', history⟩ ++ Recorded.asked ⟨s', later⟩ :=
  List.filterMap_append

/-- A recorded act of the host adds nothing to the nodes that were asked about, unless its exchanges
are questions about nodes. -/
theorem keeps_asked_recorded {exchange : Except Failure Json → Exchange}
    (hexchange : ∀ s answer, Recorded.asked (⟨s, [exchange answer]⟩ : Recorded σ) = [])
    (act : Act Failure σ Json) :
    Keeps (fun r : Recorded σ => r.asked ⊆ nodes) (act.recorded exchange) := by
  intro r hr
  show Recorded.asked ⟨_, _ ++ _⟩ ⊆ nodes
  rw [Recorded.asked_append _ r.state, hexchange, List.append_nil]
  exact hr

/-- A recorded runner adds the node that it is asked about. -/
theorem asked_invoke_recorded (runner : Runner σ) (n : Node) (r : Recorded σ) :
    (runner.recorded.invoke n r).2.asked = r.asked ++ [n] := by
  obtain ⟨outcome, -, hinvoke⟩ := runner.invoke_recorded n r
  rw [hinvoke]
  exact Recorded.asked_append _ r.state r.history _

/-- A runner is asked about nodes of the plan and no others, however the run ends. -/
theorem mem_order_of_mem_asked {host : Host σ} {jobId : String} {plan : Plan} {s : σ}
    {log : List Log.Event} {n : Node}
    (h : n ∈ (run host.recorded jobId (some plan) ⟨{ state := s }, log⟩).2.state.asked) :
    n ∈ plan.order := by
  have hkeeps : Keeps (Logged.OnState fun r : Recorded σ => r.asked ⊆ plan.order)
      (run host.recorded jobId (some plan)) := by
    refine keeps_run (fun runner hr n hn r hasked => ?_) (fun clock hc => ?_) (fun runIds hi => ?_)
      jobId
    · obtain ⟨runner, -, rfl⟩ := Option.map_eq_some_iff.mp hr
      rw [asked_invoke_recorded]
      exact List.append_subset.mpr ⟨hasked, List.cons_subset.mpr ⟨hn, List.nil_subset _⟩⟩
    · obtain ⟨clock, -, rfl⟩ := Option.map_eq_some_iff.mp hc
      exact keeps_asked_recorded (fun _ _ => rfl) clock
    · obtain ⟨runIds, -, rfl⟩ := Option.map_eq_some_iff.mp hi
      exact keeps_asked_recorded (fun _ _ => rfl) runIds
  exact hkeeps ⟨{ state := s }, log⟩ (List.nil_subset _) h

end Asked

/-! ## What a runner answers -/

section Answers

variable {R : Node → Except Failure Verdict → Prop}

/-- The outcomes on record are related to the nodes that were asked about. -/
def Recorded.Answers (R : Node → Except Failure Verdict → Prop) (r : Recorded σ) : Prop :=
  List.Forall₂ (fun n o => R n o.toVerdict) r.asked r.outcomes

theorem Recorded.Answers.append {s s' : σ} {history later : List Exchange}
    (h : Answers R (⟨s, history⟩ : Recorded σ)) (hlater : Answers R (⟨s', later⟩ : Recorded σ)) :
    Answers R (⟨s', history ++ later⟩ : Recorded σ) := by
  unfold Answers asked outcomes at h hlater ⊢
  rw [List.filterMap_append, List.filterMap_append]
  exact List.rel_append h hlater

theorem keeps_answers_recorded {exchange : Except Failure Json → Exchange}
    (hexchange : ∀ s answer, Recorded.Answers R (⟨s, [exchange answer]⟩ : Recorded σ))
    (act : Act Failure σ Json) :
    Keeps (fun r : Recorded σ => r.Answers R) (act.recorded exchange) :=
  fun _ hr => hr.append (hexchange _ _)

/-- What is true of every verdict of a runner on a node of the plan is true of the outcomes on
record, however the run ends. -/
theorem answers_of_run {host : Host σ} {plan : Plan}
    (hrunner : ∀ runner, host.runner = some runner →
      ∀ n ∈ plan.order, ∀ s, R n (runner.invoke n s).1) (jobId : String) (s : σ)
    (log : List Log.Event) :
    (run host.recorded jobId (some plan) ⟨{ state := s }, log⟩).2.state.Answers R := by
  have htime (s : σ) (answer : Except Failure Json) :
      Recorded.Answers R (⟨s, [.time answer]⟩ : Recorded σ) := List.Forall₂.nil
  have hrunId (s : σ) (answer : Except Failure Json) :
      Recorded.Answers R (⟨s, [.runId answer]⟩ : Recorded σ) := List.Forall₂.nil
  have hkeeps : Keeps (Logged.OnState fun r : Recorded σ => r.Answers R)
      (run host.recorded jobId (some plan)) := by
    refine keeps_run (fun runner hr n hn r hanswers => ?_) (fun clock hc => ?_)
      (fun runIds hi => ?_) jobId
    · obtain ⟨runner, hsome, rfl⟩ := Option.map_eq_some_iff.mp hr
      obtain ⟨outcome, hverdict, hinvoke⟩ := runner.invoke_recorded n r
      have hn : R n outcome.toVerdict := hverdict ▸ hrunner runner hsome n hn r.state
      rw [hinvoke]
      exact hanswers.append (List.Forall₂.cons hn .nil)
    · obtain ⟨clock, -, rfl⟩ := Option.map_eq_some_iff.mp hc
      exact keeps_answers_recorded htime clock
    · obtain ⟨runIds, -, rfl⟩ := Option.map_eq_some_iff.mp hi
      exact keeps_answers_recorded hrunId runIds
  exact hkeeps ⟨{ state := s }, log⟩ List.Forall₂.nil

end Answers

end JobChain
