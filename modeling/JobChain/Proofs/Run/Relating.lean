import JobChain.Proofs.Act
import JobChain.Run.Chain

/-!
# Runs put together from related acts

A run does nothing but ask its host, write to the log, and yield or fail at once.  So a relation
between acts that can be followed from one act to the next holds between the runs of two hosts as
soon as it holds between what the hosts do.  The functions of a run are gone through once here, and
not once for each relation.

* `RunRelation`: the relation can be followed along a run.
* `Host.Related`: what two hosts do is related.
* `related_run`: the runs of related hosts are related.
-/

namespace JobChain

variable {σ τ : Type}

/-- A relation between the acts of two hosts that holds of acts which yield, fail or write to the
log alike, and can be followed from one act to the next. -/
structure RunRelation (R : ∀ {α : Type}, Running σ α → Running τ α → Prop) : Prop where
  pure {α : Type} (a : α) : R (pure a : Running σ α) (pure a)
  fail {α : Type} (f : Failure) : R (Act.fail f : Running σ α) (Act.fail f)
  note (event : Log.Event) : R (Logged.note event) (Logged.note event)
  bind {α β : Type} {x : Running σ α} {y : Running τ α} {f : α → Running σ β}
    {g : α → Running τ β} (hx : R x y) (hf : ∀ a, R (f a) (g a)) : R (x >>= f) (y >>= g)

/-- What a run asks of a runner: the verdict on a node, or the failure in its place. -/
def Runner.ask (runner : Runner σ) (n : Node) : Act Failure σ (Except Failure Verdict) := fun s =>
  (.ok (runner.invoke n s).1, (runner.invoke n s).2)

@[simp] theorem Runner.ask_apply (runner : Runner σ) (n : Node) (s : σ) :
    runner.ask n s = (.ok (runner.invoke n s).1, (runner.invoke n s).2) := rfl

/-- Two hosts have the same collaborators, and what these do is related.  The runners are asked
about some nodes only. -/
structure Host.Related (R : ∀ {α : Type}, Running σ α → Running τ α → Prop) (nodes : List Node)
    (host : Host σ) (host' : Host τ) : Prop where
  runner : Option.Rel (fun runner runner' => ∀ n ∈ nodes,
    R (Logged.lift (runner.ask n)) (Logged.lift (runner'.ask n)))
    host.runner host'.runner
  clock : Option.Rel (fun clock clock' => R (Logged.lift clock) (Logged.lift clock'))
    host.clock host'.clock
  runIds : Option.Rel (fun runIds runIds' => R (Logged.lift runIds) (Logged.lift runIds'))
    host.runIds host'.runIds

/-- What is there is related to itself if it is so whenever it is there. -/
theorem optionRel_self {α : Type} {R : α → α → Prop} {a? : Option α}
    (h : ∀ a, a? = some a → R a a) : Option.Rel R a? a? := by
  cases a? with
  | none => exact .none
  | some a => exact .some (h a rfl)

theorem optionRel_map {A B C : Type} {R : B → C → Prop} (f : A → B) (g : A → C)
    (h : ∀ a, R (f a) (g a)) {a? : Option A} : Option.Rel R (a?.map f) (a?.map g) := by
  cases a? with
  | none => exact .none
  | some a => exact .some (h a)

theorem optionRel_mono {A B : Type} {R S : A → B → Prop} (h : ∀ a b, R a b → S a b) {a? : Option A}
    {b? : Option B} (hrel : Option.Rel R a? b?) : Option.Rel S a? b? := by
  cases hrel with
  | none => exact .none
  | some hab => exact .some (h _ _ hab)

section Related

variable {R : ∀ {α : Type}, Running σ α → Running τ α → Prop} {α β : Type} {runner : Runner σ}
  {runner' : Runner τ} {clock runIds : Act Failure σ Json} {clock' runIds' : Act Failure τ Json}

theorem related_checkedAs (hR : RunRelation R) (recordName : String) (x : Schema.Checked α) :
    R (checkedAs recordName x) (checkedAs recordName x) := by
  cases x with
  | error issues => exact hR.fail _
  | ok a => exact hR.pure a

theorem related_invoke (hR : RunRelation R) {n : Node}
    (hn : R (Logged.lift (runner.ask n)) (Logged.lift (runner'.ask n))) :
    R (invoke runner n) (invoke runner' n) := by
  refine hR.bind hn fun result => ?_
  cases result with
  | ok v => exact hR.pure _
  | error f =>
    show R (if _ then _ else _) (if _ then _ else _)
    split
    · exact hR.fail f
    · exact hR.pure _

theorem related_mark (hR : RunRelation R) (runId : String) (n : Node) (entry : Entry)
    (failure? : Option Failure) :
    R (mark runId n entry failure?) (mark runId n entry failure?) := by
  cases failure? with
  | none => exact hR.pure _
  | some f =>
    refine hR.bind ?_ fun _ => hR.bind (hR.note _) fun _ => hR.pure _
    cases f.description with
    | error g => exact hR.fail g
    | ok text => exact hR.pure text

theorem related_visit (hR : RunRelation R) {n : Node}
    (hn : R (Logged.lift (runner.ask n)) (Logged.lift (runner'.ask n)))
    (hclock : R (Logged.lift clock) (Logged.lift clock')) (runId : String) :
    R (visit runner clock runId n) (visit runner' clock' runId n) := by
  refine hR.bind hclock fun _ => hR.bind (related_invoke hR hn) fun result => ?_
  refine hR.bind hclock fun _ => hR.bind (related_checkedAs hR _ _) fun entry => ?_
  exact hR.bind (related_mark hR runId n entry _) fun _ => hR.pure _

theorem related_skipNodes (hR : RunRelation R) (hclock : R (Logged.lift clock) (Logged.lift clock'))
    (runId : String) (nodes : List Node) :
    R (skipNodes clock runId nodes) (skipNodes clock' runId nodes) := by
  induction nodes with
  | nil => exact hR.pure _
  | cons n rest ih =>
    rw [skipNodes_cons, skipNodes_cons]
    refine hR.bind ?_ fun _ => hR.bind ih fun _ => hR.pure _
    refine hR.bind hclock fun _ => hR.bind (related_checkedAs hR _ _) fun _ => ?_
    exact hR.bind (hR.note _) fun _ => hR.pure _

theorem related_runNodes (hR : RunRelation R) {nodes : List Node}
    (hnodes : ∀ n ∈ nodes, R (Logged.lift (runner.ask n)) (Logged.lift (runner'.ask n)))
    (hclock : R (Logged.lift clock) (Logged.lift clock')) (runId : String) (p : Progress) :
    R (runNodes runner clock runId p nodes) (runNodes runner' clock' runId p nodes) := by
  induction nodes generalizing p with
  | nil => exact hR.pure _
  | cons n rest ih =>
    obtain ⟨hn, hrest⟩ := List.forall_mem_cons.mp hnodes
    refine hR.bind (related_visit hR hn hclock runId) fun v => ?_
    show R (if v.stops then _ else _) (if v.stops then _ else _)
    split
    · exact hR.bind (related_skipNodes hR hclock runId rest) fun _ => hR.pure _
    · exact ih hrest _

theorem related_runWith (hR : RunRelation R) {plan : Plan}
    (hnodes : ∀ n ∈ plan.order, R (Logged.lift (runner.ask n)) (Logged.lift (runner'.ask n)))
    (hclock : R (Logged.lift clock) (Logged.lift clock'))
    (hids : R (Logged.lift runIds) (Logged.lift runIds')) (jobId : String) :
    R (runWith runner clock runIds jobId plan) (runWith runner' clock' runIds' jobId plan) := by
  refine hR.bind hids fun _ => hR.bind hclock fun _ => ?_
  refine hR.bind (related_checkedAs hR _ _) fun begun => hR.bind (hR.note _) fun _ => ?_
  refine hR.bind (related_runNodes hR hnodes hclock begun.runId {}) fun _ => ?_
  refine hR.bind hclock fun _ => hR.bind (related_checkedAs hR _ _) fun _ => ?_
  exact hR.bind (hR.note _) fun _ => hR.pure _

/-- Collaborators that are there on both sides or missing on both. -/
theorem related_present_bind (hR : RunRelation R) {A A' : Type} {S : A → A' → Prop}
    {a? : Option A} {a'? : Option A'} (h : Option.Rel S a? a'?) (what : String)
    {f : A → Running σ β} {g : A' → Running τ β} (hf : ∀ a a', S a a' → R (f a) (g a')) :
    R (present what a? >>= f) (present what a'? >>= g) := by
  cases h with
  | none => exact hR.fail _
  | some h => exact hf _ _ h

/-- The runs of related hosts are related.  Of the runners it matters only what they do with the
nodes of the plan. -/
theorem related_run (hR : RunRelation R) {host : Host σ} {host' : Host τ} {plan : Plan}
    (h : host.Related R plan.order host') (jobId : String) :
    R (run host jobId (some plan)) (run host' jobId (some plan)) := by
  have hplan : Option.Rel (fun p p' => p = plan ∧ p' = plan) (some plan) (some plan) :=
    .some ⟨rfl, rfl⟩
  refine related_present_bind hR hplan _ fun _ _ ⟨hp, hp'⟩ => ?_
  rw [hp, hp']
  refine related_present_bind hR h.runner _ fun _ _ hrunner => ?_
  refine related_present_bind hR h.clock _ fun _ _ hclock => ?_
  refine related_present_bind hR h.runIds _ fun _ _ hids => ?_
  exact related_runWith hR hrunner hclock hids jobId

end Related

end JobChain
