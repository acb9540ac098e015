import JobChain.Proofs.Run.Story

/-!
# How runs end

A run whose host has all collaborators ends with a trace, or else with a failure that a collaborator
ended with: the clock, the source of ids, or the runner, if the failure is of a class that ends
runs.  There is one more way: a failure of the runner does not tell what it is, and what comes up
instead ends the run.  The times in the trace are texts that the clock told, and the id is one of
the source's.

* `Act.Tells`: a source of texts that may also fail.
* `Runner.EndsRuns`: what is known of the failures of a runner that end runs.
* `Entry.TimesIn`: the times of an entry are among some texts.
* `ends_run`: how the runs of a host end.
-/

namespace JobChain

open Act (Ends)

variable {σ : Type}

/-- A source of texts: its values are texts with a property, and its failures, together with the
states that they leave, have one too. -/
def Act.Tells (T : String → Prop) (E : Failure → σ → Prop) (act : Act Failure σ Json) : Prop :=
  Ends (fun j => ∃ text, j = .string text ∧ T text) E act

/-- A runner whose failures on a node have a property together with the states that they leave, if
they are of a class that ends runs.  What comes up when one of its failures is asked for its
description has the property with any state. -/
structure Runner.EndsRuns (E : Failure → σ → Prop) (runner : Runner σ) (n : Node) : Prop where
  ends (s : σ) (f : Failure) (hf : (runner.invoke n s).1 = .error f)
    (hends : f.kind.endsRun = true) : E f (runner.invoke n s).2
  silent (s : σ) (f g : Failure) (hf : (runner.invoke n s).1 = .error f)
    (hg : f.description = .error g) (t : σ) : E g t

/-- The times of an entry have a property. -/
structure Entry.TimesIn (T : String → Prop) (e : Entry) : Prop where
  startedAt : T e.startedAt
  finishedAt : ∀ text, e.finishedAt = some text → T text

section Acts

variable {T R : String → Prop} {E : Failure → σ → Prop} {runner : Runner σ}
  {clock runIds : Act Failure σ Json} {runId : String}

/-- A property of failures and states of the host, beside a log. -/
def OnState (E : Failure → σ → Prop) (f : Failure) (s : Logged σ) : Prop := E f s.state

theorem ends_lift {α : Type} {P : α → Prop} {act : Act Failure σ α} (h : Ends P E act) :
    Ends P (OnState E) (Logged.lift act) :=
  fun s => h s.state

theorem ends_note (event : Log.Event) :
    Ends (fun _ => True) (OnState E) (Logged.note event : Running σ Unit) := by
  intro s
  refine ⟨fun _ _ => trivial, fun e he => ?_⟩
  cases he

theorem ends_checkedAs {α : Type} {recordName : String} {x : Schema.Checked α} {P : α → Prop}
    {a : α} (h : x = .ok a) (hP : P a) :
    Ends P (OnState E) (checkedAs recordName x : Running σ α) := by
  rw [h]
  exact .pure hP

theorem ends_ofExcept {α : Type} {P : α → Prop} {x : Except Failure α}
    (hvalue : ∀ a, x = .ok a → P a) (hfailure : ∀ f, x = .error f → ∀ t, E f t) :
    Ends P (OnState E) (Act.ofExcept x : Running σ α) := by
  intro s
  cases x with
  | error f =>
    refine ⟨fun a ha => ?_, fun e he => ?_⟩
    · cases ha
    · cases he
      exact hfailure f rfl s.state
  | ok a => exact Ends.pure (hvalue a rfl) s

theorem ends_invoke {n : Node} (hn : runner.EndsRuns E n) :
    Ends (fun result => ∀ f g, result = .error f → f.description = .error g → ∀ t, E g t)
      (OnState E) (invoke runner n) := by
  intro s
  have hends := hn.ends s.state
  have hsilent := hn.silent s.state
  rw [invoke_apply]
  rcases hinvoke : runner.invoke n s.state with ⟨f | v, t⟩
  · rw [hinvoke] at hends hsilent
    -- the failure ends the run, or it is told of the node
    cases hkind : f.kind.endsRun with
    | true =>
      refine ⟨fun result hresult => ?_, fun e he => ?_⟩
      · simp [hkind] at hresult
      · simp only [hkind, if_true, Except.error.injEq] at he
        subst he
        exact hends f rfl hkind
    | false =>
      refine ⟨fun result hresult => ?_, fun e he => ?_⟩
      · simp only [hkind, Bool.false_eq_true, if_false, Except.ok.injEq] at hresult
        subst hresult
        intro g₁ g₂ hf hg
        cases hf
        exact hsilent f g₂ rfl hg
      · simp [hkind] at he
  · refine ⟨fun result hresult => ?_, fun e he => ?_⟩
    · cases hresult
      intro f g hf
      cases hf
    · cases he

/-- The entry of a node that has its times from a source of texts. -/
theorem entryAt_of_texts {n : Node} {status : Status} {error : Option String} {started : String}
    {finished : String} :
    entryAt n status error (.string started) (.string finished) =
      .ok ⟨n.id, n.type, status, n.continueOnError, started, some finished, error⟩ := rfl

theorem Entry.timesIn_of_texts {n : Node} {status : Status} {error : Option String}
    {started finished : String} (hstarted : T started) (hfinished : T finished) :
    Entry.TimesIn T ⟨n.id, n.type, status, n.continueOnError, started, some finished, error⟩ where
  startedAt := hstarted
  finishedAt text htext := by
    cases htext
    exact hfinished

theorem ends_mark {n : Node} {entry : Entry} {failure? : Option Failure}
    (hentry : entry.TimesIn T)
    (hfailure : ∀ f g, failure? = some f → f.description = .error g → ∀ t, E g t) :
    Ends (Entry.TimesIn T) (OnState E) (mark runId n entry failure?) := by
  cases failure? with
  | none => exact .pure hentry
  | some f =>
    refine .bind (ends_ofExcept (P := fun _ => True) (fun _ _ => trivial) fun g hg =>
      hfailure f g rfl hg) fun text _ => ?_
    exact .bind (ends_note _) fun _ _ => .pure ⟨hentry.startedAt, hentry.finishedAt⟩

theorem ends_visit {n : Node} (hn : runner.EndsRuns E n) (hclock : clock.Tells T E) :
    Ends (fun v => v.entry.TimesIn T) (OnState E) (visit runner clock runId n) := by
  refine .bind (ends_lift hclock) fun _ ⟨started, hstarted, hstartedIn⟩ => ?_
  refine .bind (ends_invoke hn) fun result hresult => ?_
  refine .bind (ends_lift hclock) fun _ ⟨finished, hfinished, hfinishedIn⟩ => ?_
  rw [hstarted, hfinished]
  refine .bind (ends_checkedAs entryAt_of_texts (Entry.timesIn_of_texts hstartedIn hfinishedIn))
    fun entry hentry => ?_
  refine .bind (ends_mark hentry fun f g hf => ?_) fun marked hmarked => .pure hmarked
  cases result with
  | ok v => cases hf
  | error f' =>
    cases hf
    exact hresult f g rfl

theorem ends_skipNodes (hclock : clock.Tells T E) (nodes : List Node) :
    Ends (fun entries => ∀ e ∈ entries, Entry.TimesIn T e) (OnState E)
      (skipNodes clock runId nodes) := by
  induction nodes with
  | nil => exact .pure fun _ he => by cases he
  | cons n rest ih =>
    rw [skipNodes_cons]
    refine .bind (P := Entry.TimesIn T) ?_ fun entry hentry => .bind ih fun entries hentries =>
      .pure (List.forall_mem_cons.mpr ⟨hentry, hentries⟩)
    refine .bind (ends_lift hclock) fun _ ⟨time, htime, htimeIn⟩ => ?_
    rw [htime]
    refine .bind (ends_checkedAs entryAt_of_texts (Entry.timesIn_of_texts htimeIn htimeIn))
      fun entry hentry => ?_
    exact .bind (ends_note _) fun _ _ => .pure hentry

theorem Progress.forall_mem_add {P : Entry → Prop} {p : Progress} {v : Visit}
    (hp : ∀ e ∈ p.entries, P e) (hv : P v.entry) (n : Node) : ∀ e ∈ (p.add n v).entries, P e := by
  rw [Progress.entries_add]
  exact List.forall_mem_append.mpr ⟨hp, List.forall_mem_singleton.mpr hv⟩

theorem ends_runNodes {nodes : List Node} (hrunner : ∀ n ∈ nodes, runner.EndsRuns E n)
    (hclock : clock.Tells T E) {p : Progress} (hp : ∀ e ∈ p.entries, Entry.TimesIn T e) :
    Ends (fun p => ∀ e ∈ p.entries, Entry.TimesIn T e) (OnState E)
      (runNodes runner clock runId p nodes) := by
  induction nodes generalizing p with
  | nil => exact .pure hp
  | cons n rest ih =>
    obtain ⟨hn, hrest⟩ := List.forall_mem_cons.mp hrunner
    refine .bind (ends_visit hn hclock) fun v hv => ?_
    have hadded := Progress.forall_mem_add hp hv n
    show Ends _ _ (if v.stops then _ else _)
    split
    · exact .bind (ends_skipNodes hclock rest) fun entries hentries =>
        .pure (List.forall_mem_append.mpr ⟨hadded, hentries⟩)
    · exact ih hrest hadded

theorem ends_runWith {plan : Plan} (hrunner : ∀ n ∈ plan.order, runner.EndsRuns E n)
    (hclock : clock.Tells T E) (hids : runIds.Tells R E) (jobId : String) :
    Ends (fun r => R r.trace.runId ∧ ∀ e ∈ r.trace.entries, Entry.TimesIn T e) (OnState E)
      (runWith runner clock runIds jobId plan) := by
  refine .bind (ends_lift hids) fun _ ⟨id, hid, hidIn⟩ => ?_
  refine .bind (ends_lift hclock) fun _ ⟨started, hstarted, _⟩ => ?_
  rw [hid, hstarted]
  refine .bind (ends_checkedAs (P := fun begun => R begun.runId) rfl hidIn) fun begun hbegun => ?_
  refine .bind (ends_note _) fun _ _ => ?_
  refine .bind (ends_runNodes hrunner hclock (by simp)) fun p hp => ?_
  refine .bind (ends_lift hclock) fun _ ⟨finished, hfinished, _⟩ => ?_
  rw [hfinished]
  refine .bind (ends_checkedAs (P := fun _ => True) rfl trivial) fun _ _ => ?_
  exact .bind (ends_note _) fun _ _ => .pure ⟨hbegun, hp⟩

/-- The runs of a host that has its collaborators end with a trace or with a failure of these. -/
theorem ends_run {host : Host σ} {plan : Plan} (hrunner : host.runner = some runner)
    (hclock : host.clock = some clock) (hids : host.runIds = some runIds)
    (hends : ∀ n ∈ plan.order, runner.EndsRuns E n) (htimes : clock.Tells T E)
    (hidsTell : runIds.Tells R E) (jobId : String) :
    Ends (fun r => R r.trace.runId ∧ ∀ e ∈ r.trace.entries, Entry.TimesIn T e) (OnState E)
      (run host jobId (some plan)) := by
  obtain ⟨_, _, _⟩ := host
  subst hrunner hclock hids
  exact ends_runWith hends htimes hidsTell jobId

end Acts

end JobChain
