import JobChain.Proofs.Run.Ending

/-!
# Runs that return

A run can fail in four ways only, once its collaborators are there: its clock or its source of ids
fails or answers with something that is no text, the failure of a node is of a class that ends runs,
or such a failure does not tell what it is.  A host that does none of the first three has runs that
return unless a failure of a node of their plan is silent, whatever else its runner answers.

* `Host.IsReliable`: such a host, and `Host.TellsFailures`, a host without silent failures.
* `ends_run_of_isReliable`: the runs of a reliable host return or end because of a silent failure.
* `yields_run`: they return if there is none.
-/

namespace JobChain

open Act (Ends Yields)

variable {σ : Type}

/-- A source of texts: it never fails, and its values are texts. -/
def Act.IsTextual (act : Act Failure σ Json) : Prop := ∀ s, ∃ text, (act s).1 = .ok (.string text)

/-- A runner whose failures are failures of nodes. -/
def Runner.IsContained (runner : Runner σ) : Prop :=
  ∀ n s f, (runner.invoke n s).1 = .error f → f.kind.endsRun = false

/-- A host that has all collaborators: a clock and a source of ids that are sources of texts, and a
runner whose failures are failures of nodes. -/
structure Host.IsReliable (host : Host σ) : Prop where
  runner : ∃ runner, host.runner = some runner ∧ runner.IsContained
  clock : ∃ clock, host.clock = some clock ∧ clock.IsTextual
  runIds : ∃ runIds, host.runIds = some runIds ∧ runIds.IsTextual

/-- The failure can be described, and its description is not empty. -/
def Failure.IsTellable (f : Failure) : Prop := ∃ text, f.description = .ok text ∧ text ≠ ""

/-- Whatever failures the runner of the host answers with on some nodes, they can be described. -/
def Host.TellsFailures (host : Host σ) (nodes : List Node) : Prop :=
  ∀ runner, host.runner = some runner →
    ∀ n ∈ nodes, ∀ s f, (runner.invoke n s).1 = .error f → f.IsTellable

/-- A failure comes up when one that the runner of the host answers with on some nodes is asked for
its description. -/
def Host.IsSilencedBy (host : Host σ) (nodes : List Node) (g : Failure) : Prop :=
  ∃ runner, host.runner = some runner ∧
    ∃ n ∈ nodes, ∃ s f, (runner.invoke n s).1 = .error f ∧ f.description = .error g

theorem Host.TellsFailures.not_isSilencedBy {host : Host σ} {nodes : List Node} {g : Failure}
    (h : host.TellsFailures nodes) : ¬host.IsSilencedBy nodes g := by
  rintro ⟨runner, hrunner, n, hn, s, f, hf, hg⟩
  obtain ⟨text, htext, -⟩ := h runner hrunner n hn s f hf
  cases htext.symm.trans hg

section Returning

variable {runner : Runner σ} {act : Act Failure σ Json}

theorem Act.IsTextual.tells {E : Failure → σ → Prop} (h : act.IsTextual) :
    act.Tells (fun _ => True) E := by
  intro s
  obtain ⟨text, htext⟩ := h s
  refine ⟨fun j hj => ⟨text, ?_, trivial⟩, fun f hf => ?_⟩
  · exact Except.ok.inj (hj.symm.trans htext)
  · cases hf.symm.trans htext

/-- The runs of a reliable host return, or they end with what came up when a failure of a node was
asked for its description. -/
theorem ends_run_of_isReliable {host : Host σ} (h : host.IsReliable) (jobId : String)
    (plan : Plan) :
    Ends (fun _ => True) (OnState fun g _ => host.IsSilencedBy plan.order g)
      (run host jobId (some plan)) := by
  obtain ⟨runner, hrunner, hcontained⟩ := h.runner
  obtain ⟨clock, hclock, htimes⟩ := h.clock
  obtain ⟨runIds, hids, hidTexts⟩ := h.runIds
  have hends : ∀ n ∈ plan.order,
      runner.EndsRuns (fun g _ => host.IsSilencedBy plan.order g) n := fun n hn =>
    { ends := fun s f hf hkind => by
        rw [hcontained n s f hf] at hkind
        cases hkind
      silent := fun s f g hf hg _ => ⟨runner, hrunner, n, hn, s, f, hf, hg⟩ }
  intro s
  obtain ⟨-, hfailure⟩ := ends_run hrunner hclock hids hends htimes.tells hidTexts.tells jobId s
  exact ⟨fun _ _ => trivial, hfailure⟩

/-- The runs of a reliable host whose failures can be described return. -/
theorem yields_run {host : Host σ} (h : host.IsReliable) {plan : Plan}
    (htells : host.TellsFailures plan.order) (jobId : String) :
    Yields (fun _ => True) (run host jobId (some plan)) :=
  (ends_run_of_isReliable h jobId plan).yields fun _ _ => htells.not_isSilencedBy

end Returning

end JobChain
