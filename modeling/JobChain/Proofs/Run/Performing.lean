import JobChain.Proofs.Run.Meaning

/-!
# Runs in which every node succeeds

Suppose that it is known beforehand which verdict the runner comes to for each node of a plan, and
what it asks of the world outside on the way.  Then it is known what a run of the plan does.  It
takes the nodes in order up to the first whose verdict is to stop, and skips the others; all that it
asks of the world is what the nodes before that one ask for, in their order.

The world is anything that can be seen of the state of the host: a list of demands that grows at its
end, and that neither the clock nor the source of ids adds to.

* `Runner.Performs`: what the runner does with a node is known.
* `Performed`: what the nodes of a chain leave behind then.
* `reaches_runNodes`, `reaches_run`: a chain, and a whole run.
-/

namespace JobChain

open Act (Reaches)

variable {σ δ : Type}

/-! ## What is known beforehand -/

/-- For the node the runner comes to the verdict that is known, and what is seen of the state grows
by the demand that is known, if there is one. -/
def Runner.Performs (seen : σ → List δ) (stop : Node → Bool) (demand? : Node → Option δ)
    (runner : Runner σ) (n : Node) : Prop :=
  ∀ s, ∃ s', runner.invoke n s = (.ok { stop := stop n }, s') ∧
    seen s' = seen s ++ (demand? n).toList

/-- A source of texts that adds nothing to what is seen of the state. -/
def Act.TellsUnseen (seen : σ → List δ) (act : Act Failure σ Json) : Prop :=
  ∀ s, ∃ text s', act s = (.ok (.string text), s') ∧ seen s' = seen s

/-- The entry says that its node succeeded. -/
def Entry.IsSucceeded (e : Entry) : Prop := e.status = .succeeded ∧ e.error = none

/-- What the nodes of a chain leave behind if each is performed: an entry for each of them, which
says that it succeeded up to the first that stops and that it was skipped afterwards, and the
demands of the nodes before that one. -/
structure Performed (seen : σ → List δ) (stop : Node → Bool) (demand? : Node → Option δ)
    (nodes : List Node) (s s' : σ) (entries : List Entry) : Prop where
  are_of : List.Forall₂ Entry.IsOf nodes entries
  succeeded : ∀ e ∈ entries.take ((nodes.takeWhile fun n => !stop n).length + 1), e.IsSucceeded
  skipped : ∀ e ∈ entries.drop ((nodes.takeWhile fun n => !stop n).length + 1), e.IsSkipped
  adds : seen s' = seen s ++ (nodes.takeWhile fun n => !stop n).filterMap demand?

section Performed

variable {seen : σ → List δ} {stop : Node → Bool} {demand? : Node → Option δ}
  {n : Node} {rest : List Node} {s s₁ s' : σ} {e : Entry} {entries : List Entry}

theorem Performed.nil : Performed seen stop demand? [] s s [] where
  are_of := .nil
  succeeded := by simp
  skipped := by simp
  adds := by simp

/-- A node that stops the chain, and the others that are skipped. -/
theorem Performed.halt (hstop : stop n = true) (hn : e.IsOf n) (he : e.IsSucceeded)
    (hentries : List.Forall₂ Entry.IsOf rest entries) (hskipped : ∀ e ∈ entries, e.IsSkipped)
    (hseen : seen s' = seen s) :
    Performed seen stop demand? (n :: rest) s s' (e :: entries) := by
  have hbefore : (n :: rest).takeWhile (fun n => !stop n) = [] := by
    rw [List.takeWhile_cons, hstop]
    rfl
  constructor
  case are_of => exact .cons hn hentries
  case succeeded =>
    rw [hbefore]
    simpa using he
  case skipped =>
    rw [hbefore]
    simpa using hskipped
  case adds => rw [hbefore, hseen, List.filterMap_nil, List.append_nil]

/-- A node that lets the chain go on, and what becomes of the others. -/
theorem Performed.next (hstop : stop n = false) (hn : e.IsOf n) (he : e.IsSucceeded)
    (hseen : seen s₁ = seen s ++ (demand? n).toList)
    (h : Performed seen stop demand? rest s₁ s' entries) :
    Performed seen stop demand? (n :: rest) s s' (e :: entries) := by
  have hbefore : (n :: rest).takeWhile (fun n => !stop n) =
      n :: rest.takeWhile fun n => !stop n := by
    rw [List.takeWhile_cons, hstop]
    rfl
  constructor
  case are_of => exact .cons hn h.are_of
  case succeeded =>
    rw [hbefore, List.length_cons, List.take_succ_cons]
    exact List.forall_mem_cons.mpr ⟨he, h.succeeded⟩
  case skipped =>
    rw [hbefore, List.length_cons, List.drop_succ_cons]
    exact h.skipped
  case adds =>
    rw [h.adds, hseen, hbefore, List.append_assoc]
    congr 1
    cases hdemand : demand? n <;> simp [hdemand]

end Performed

/-! ## Nodes -/

section Nodes

variable {seen : σ → List δ} {stop : Node → Bool} {demand? : Node → Option δ}
  {runner : Runner σ} {clock runIds : Act Failure σ Json} {runId : String}

theorem reaches_lift {act : Act Failure σ Json} (h : act.TellsUnseen seen) (s : Logged σ) :
    Reaches (Logged.lift act) s fun j s' =>
      (∃ text, j = .string text) ∧ seen s'.state = seen s.state := by
  obtain ⟨text, s', hact, hseen⟩ := h s.state
  refine ⟨.string text, { s with state := s' }, ?_, ⟨text, rfl⟩, hseen⟩
  rw [Logged.lift_apply, hact]

theorem reaches_checkedAs {α : Type} {recordName : String} {x : Schema.Checked α} {a : α}
    (h : x = .ok a) (s : Logged σ) :
    Reaches (checkedAs recordName x) s fun b s' => b = a ∧ s' = s :=
  ⟨a, s, checkedAs_eq_ok_iff.mpr ⟨h, rfl⟩, rfl, rfl⟩

theorem reaches_note (event : Log.Event) (s : Logged σ) :
    Reaches (Logged.note event : Running σ Unit) s fun _ s' => s'.state = s.state :=
  ⟨(), _, rfl, rfl⟩

theorem reaches_invoke {n : Node} (h : runner.Performs seen stop demand? n) (s : Logged σ) :
    Reaches (invoke runner n) s fun result s' =>
      result = .ok { stop := stop n } ∧ seen s'.state = seen s.state ++ (demand? n).toList := by
  obtain ⟨s', hinvoke, hseen⟩ := h s.state
  refine ⟨.ok { stop := stop n }, { s with state := s' }, ?_, rfl, hseen⟩
  rw [invoke_apply, hinvoke]

/-- A node that is performed succeeds, and its verdict decides whether the chain goes on. -/
theorem reaches_visit {n : Node} (hrunner : runner.Performs seen stop demand? n)
    (hclock : clock.TellsUnseen seen) (s : Logged σ) :
    Reaches (visit runner clock runId n) s fun v s' =>
      (v.entry.IsOf n ∧ v.entry.IsSucceeded ∧ v.failure? = none ∧ v.stops = stop n) ∧
        seen s'.state = seen s.state ++ (demand? n).toList := by
  refine .bind (reaches_lift hclock s) ?_
  rintro _ s₁ ⟨⟨started, rfl⟩, hseen₁⟩
  refine .bind (reaches_invoke hrunner s₁) ?_
  rintro _ s₂ ⟨rfl, hseen₂⟩
  refine .bind (reaches_lift hclock s₂) ?_
  rintro _ s₃ ⟨⟨finished, rfl⟩, hseen₃⟩
  refine .bind (reaches_checkedAs rfl s₃) ?_
  rintro _ _ ⟨rfl, rfl⟩
  refine .pure ⟨⟨⟨rfl, rfl, rfl⟩, ⟨rfl, rfl⟩, rfl, rfl⟩, ?_⟩
  rw [hseen₃, hseen₂, hseen₁]

/-- Nodes that are skipped leave entries that say so, and nothing is seen of it. -/
theorem reaches_skipNodes (hclock : clock.TellsUnseen seen) (nodes : List Node) (s : Logged σ) :
    Reaches (skipNodes clock runId nodes) s fun entries s' =>
      List.Forall₂ Entry.IsOf nodes entries ∧ (∀ e ∈ entries, e.IsSkipped) ∧
        seen s'.state = seen s.state := by
  induction nodes generalizing s with
  | nil => exact .pure ⟨.nil, by simp, rfl⟩
  | cons n rest ih =>
    have hskip : Reaches (skip clock runId n) s fun e s' =>
        (e.IsOf n ∧ e.IsSkipped) ∧ seen s'.state = seen s.state := by
      refine .bind (reaches_lift hclock s) ?_
      rintro _ s₁ ⟨⟨time, rfl⟩, hseen₁⟩
      refine .bind (reaches_checkedAs rfl s₁) ?_
      rintro _ _ ⟨rfl, rfl⟩
      refine .bind (reaches_note _ _) ?_
      intro _ s₂ hstate
      exact .pure ⟨⟨⟨rfl, rfl, rfl⟩, rfl, rfl⟩, by rw [hstate, hseen₁]⟩
    rw [skipNodes_cons]
    refine .bind hskip ?_
    rintro e s₁ ⟨⟨hn, he⟩, hseen₁⟩
    refine .bind (ih s₁) ?_
    rintro entries s₂ ⟨hentries, hskipped, hseen₂⟩
    exact .pure ⟨.cons hn hentries, List.forall_mem_cons.mpr ⟨he, hskipped⟩,
      hseen₂.trans hseen₁⟩

/-- The nodes of a chain that are all performed, after what the chain has come to without a
failure. -/
theorem reaches_runNodes {nodes : List Node}
    (hrunner : ∀ n ∈ nodes, runner.Performs seen stop demand? n)
    (hstop : ∀ n ∈ nodes, stop n = true → demand? n = none) (hclock : clock.TellsUnseen seen)
    (p : Progress) (s : Logged σ) :
    Reaches (runNodes runner clock runId p nodes) s fun p' s' =>
      ∃ entries, p' = p.extend entries ∧
        Performed seen stop demand? nodes s.state s'.state entries := by
  induction nodes generalizing p s with
  | nil => exact .pure ⟨[], by simp [Progress.extend], .nil⟩
  | cons n rest ih =>
    obtain ⟨hn, hrest⟩ := List.forall_mem_cons.mp hrunner
    obtain ⟨hnstop, hreststop⟩ := List.forall_mem_cons.mp hstop
    refine .bind (reaches_visit hn hclock s) ?_
    rintro v s₁ ⟨⟨hentry, hsucceeded, hfailure, hstops⟩, hseen⟩
    have hadd : p.add n v = p.extend [v.entry] := by
      rw [Progress.add, hfailure]
      rfl
    have hextend (entries : List Entry) :
        (p.extend [v.entry]).extend entries = p.extend (v.entry :: entries) := by
      simp [Progress.extend]
    show Reaches (if v.stops then _ else _) _ _
    rw [hadd, hstops]
    -- the chain ends here, and what is seen does not grow any more, or the others go on from here
    cases hverdict : stop n with
    | true =>
      have hseen₁ : seen s₁.state = seen s.state := by
        rw [hseen, hnstop hverdict, Option.toList_none, List.append_nil]
      refine .bind (reaches_skipNodes hclock rest s₁) ?_
      rintro entries s₂ ⟨hentries, hskipped, hseen₂⟩
      exact .pure ⟨_, hextend entries,
        .halt hverdict hentry hsucceeded hentries hskipped (hseen₂.trans hseen₁)⟩
    | false =>
      obtain ⟨_, s₂, hrun, entries, rfl, hperformed⟩ := ih hrest hreststop (p.extend [v.entry]) s₁
      exact ⟨_, s₂, hrun, _, hextend entries,
        .next hverdict hentry hsucceeded hseen hperformed⟩

/-- A run of a plan whose nodes are all performed. -/
theorem reaches_run {plan : Plan}
    (hperforms : ∀ n ∈ plan.order, runner.Performs seen stop demand? n)
    (hstop : ∀ n ∈ plan.order, stop n = true → demand? n = none)
    (htells : clock.TellsUnseen seen) (hidsTell : runIds.TellsUnseen seen) (jobId : String)
    (s : Logged σ) :
    Reaches (run ⟨some runner, some clock, some runIds⟩ jobId (some plan)) s fun r s' =>
      r.trace.hadFailures = false ∧ r.error = none ∧
        Performed seen stop demand? plan.order s.state s'.state r.trace.entries := by
  show Reaches (runWith runner clock runIds jobId plan) s _
  refine .bind (reaches_lift hidsTell s) ?_
  rintro _ s₁ ⟨⟨runId, rfl⟩, hseen₁⟩
  refine .bind (reaches_lift htells s₁) ?_
  rintro _ s₂ ⟨⟨started, rfl⟩, hseen₂⟩
  refine .bind (reaches_checkedAs rfl s₂) ?_
  rintro _ _ ⟨rfl, rfl⟩
  refine .bind (reaches_note _ _) ?_
  intro _ s₃ hstate₃
  refine .bind (reaches_runNodes hperforms hstop htells {} s₃) ?_
  rintro _ s₄ ⟨entries, rfl, hperformed⟩
  refine .bind (reaches_lift htells s₄) ?_
  rintro _ s₅ ⟨⟨finished, rfl⟩, hseen₅⟩
  refine .bind (reaches_checkedAs rfl s₅) ?_
  rintro _ _ ⟨rfl, rfl⟩
  refine .bind (reaches_note _ _) ?_
  intro _ s₆ hstate₆
  have hseen : seen s₃.state = seen s.state := by rw [hstate₃, hseen₂, hseen₁]
  refine .pure ⟨rfl, rfl, ?_⟩
  exact { hperformed with adds := by rw [hstate₆, hseen₅, hperformed.adds, hseen] }

end Nodes

end JobChain
