import JobChain.Proofs.Act
import JobChain.Proofs.Plan.Consistency

/-!
# What the callbacks are asked

A compilation keeps a record of the arguments of its callbacks.  One that comes to a plan has asked
about every node in its turn: whether its type is supported, unless the node is a start, and what is
wrong with its condition, if it tests one.  So the record can be told from the workflow.

* `Callbacks.typesOf`, `Callbacks.conditionsOf`: the arguments that some nodes give rise to.
* `snd_checkSupport`, `snd_checkCondition`, `snd_checkKind`: what the single checks ask.
* `calls_of_admitNodes`: what is asked about nodes that are all in order.
* `calls_of_compilePayload`: what has been asked when there is a plan.
-/

namespace JobChain

/-- The types that the callback is asked about, if there is one: those of all nodes but starts. -/
def Callbacks.typesOf (callbacks : Callbacks) (nodes : List Node) : List String :=
  if callbacks.supports.isSome then (nodes.filter fun n => n.kind ≠ .start).map (·.type) else []

/-- The conditions that the callback is asked about, if there is one: those of the nodes that test
one. -/
def Callbacks.conditionsOf (callbacks : Callbacks) (nodes : List Node) : List String :=
  if callbacks.validate.isSome then
    (nodes.filter fun n => n.kind = .ifEvent).map (·.ifCondition)
  else []

section Nodes

variable {callbacks : Callbacks}

theorem Callbacks.typesOf_append (front back : List Node) :
    callbacks.typesOf (front ++ back) = callbacks.typesOf front ++ callbacks.typesOf back := by
  unfold typesOf
  split_ifs
  · rw [List.filter_append, List.map_append]
  · rfl

theorem Callbacks.conditionsOf_append (front back : List Node) :
    callbacks.conditionsOf (front ++ back) =
      callbacks.conditionsOf front ++ callbacks.conditionsOf back := by
  unfold conditionsOf
  split_ifs
  · rw [List.filter_append, List.map_append]
  · rfl

/-- The record after questions about some nodes. -/
def Calls.about (calls : Calls) (callbacks : Callbacks) (nodes : List Node) : Calls where
  supports := calls.supports ++ callbacks.typesOf nodes
  validate := calls.validate ++ callbacks.conditionsOf nodes

theorem Calls.about_nil (calls : Calls) : calls.about callbacks [] = calls := by
  simp [about, Callbacks.typesOf, Callbacks.conditionsOf]

theorem Calls.about_append (calls : Calls) (front back : List Node) :
    calls.about callbacks (front ++ back) =
      (calls.about callbacks front).about callbacks back := by
  simp only [about, Callbacks.typesOf_append, Callbacks.conditionsOf_append, List.append_assoc]

/-! ## Single checks -/

theorem snd_checkSupport (n : Node) (calls : Calls) :
    (checkSupport callbacks n calls).2 =
      { calls with
        supports := calls.supports ++ if callbacks.supports.isSome then [n.type] else [] } := by
  unfold checkSupport
  cases callbacks.supports with
  | none => simp
  | some supports =>
    simp only [askSupport, Act.bind_apply, Act.modify_apply, refuseIf_apply]
    rfl

theorem snd_checkCondition (n : Node) (calls : Calls) :
    (checkCondition callbacks n calls).2 =
      { calls with
        validate :=
          calls.validate ++ if callbacks.validate.isSome then [n.ifCondition] else [] } := by
  unfold checkCondition
  cases callbacks.validate with
  | none => simp
  | some validate =>
    simp only [Act.bind_apply, Act.modify_apply]
    cases validate n.ifCondition <;> rfl

/-- Only the kind that tests a condition asks about it. -/
theorem snd_checkKind (earlier : List Node) (n : Node) (calls : Calls) :
    (callbacks.checks.checkKind earlier n calls).2 =
      if n.kind = .ifEvent then (checkCondition callbacks n calls).2 else calls := by
  unfold Checks.checkKind
  cases n.kind <;> simp [refuseIf_apply, Callbacks.checks]

/-! ## Nodes that are in order -/

theorem refuseIf_bind_eq_ok_iff {α : Type} {wrong : Bool} {reason : Refusal}
    {f : Unit → Compiling α} {calls calls' : Calls} {a : α} :
    (refuseIf wrong reason >>= f) calls = (.ok a, calls') ↔
      wrong = false ∧ f () calls = (.ok a, calls') := by
  rw [Act.bind_apply, refuseIf_apply]
  cases wrong <;> simp

/-- What is asked about a node that is in order. -/
theorem calls_of_admitNode {earlier : List Node} {raw n : Node} {calls calls' : Calls}
    (h : callbacks.checks.admitNode earlier raw calls = (.ok n, calls')) :
    n = raw.normalized ∧ calls' = calls.about callbacks [n] := by
  unfold Checks.admitNode at h
  generalize raw.normalized = m at h ⊢
  simp only [refuseIf_bind_eq_ok_iff] at h
  obtain ⟨-, -, h⟩ := h
  have hkind {asked : Calls}
      (h : (callbacks.checks.checkKind earlier m >>= fun _ => pure m) asked = (.ok n, calls')) :
      n = m ∧ calls' =
        if m.kind = .ifEvent then (checkCondition callbacks m asked).2 else asked := by
    obtain ⟨_, checked, hcheck, hpure⟩ := Act.bind_eq_ok_iff.mp h
    obtain ⟨rfl, rfl⟩ := Act.pure_eq_ok_iff.mp hpure
    rw [← snd_checkKind earlier, hcheck]
    exact ⟨rfl, rfl⟩
  by_cases hstart : m.kind = .start
  · rw [if_neg (not_not_intro hstart)] at h
    obtain ⟨rfl, hcalls⟩ := hkind h
    rw [hcalls]
    simp [Calls.about, Callbacks.typesOf, Callbacks.conditionsOf, hstart]
  · rw [if_pos hstart] at h
    obtain ⟨_, asked, hsupport, hrest⟩ := Act.bind_eq_ok_iff.mp h
    obtain ⟨rfl, hcalls⟩ := hkind hrest
    have hasked : asked = (checkSupport callbacks n calls).2 := (congrArg Prod.snd hsupport).symm
    rw [hcalls, hasked, snd_checkCondition, snd_checkSupport]
    by_cases hcondition : n.kind = .ifEvent
    · simp [Calls.about, Callbacks.typesOf, Callbacks.conditionsOf, hcondition]
    · simp [Calls.about, Callbacks.typesOf, Callbacks.conditionsOf, hcondition, hstart]

/-- What is asked about nodes that are all in order. -/
theorem calls_of_admitNodes {earlier raws nodes : List Node} {calls calls' : Calls}
    (h : callbacks.checks.admitNodes earlier raws calls = (.ok nodes, calls')) :
    calls' = calls.about callbacks (raws.map Node.normalized) := by
  induction raws generalizing earlier calls with
  | nil =>
    obtain ⟨-, rfl⟩ := Act.pure_eq_ok_iff.mp h
    exact calls'.about_nil.symm
  | cons raw rest ih =>
    rw [Checks.admitNodes, Act.bind_eq_ok_iff] at h
    obtain ⟨n, asked, hn, hrest⟩ := h
    obtain ⟨hraw, hasked⟩ := calls_of_admitNode hn
    rw [ih hrest, hasked, hraw, List.map_cons, ← Calls.about_append, List.singleton_append]

end Nodes

/-! ## Plans -/

section Plan

variable {callbacks : Callbacks} {w : Workflow} {p : Plan} {calls : Calls}

/-- When there is a plan, the callbacks have been asked about every node of the workflow. -/
theorem calls_of_compile (h : compile callbacks w {} = (.ok p, calls)) :
    calls = ({} : Calls).about callbacks w.normalNodes := by
  rw [compile, Checks.compile_eq] at h
  simp only [refuseIf_bind_eq_ok_iff] at h
  obtain ⟨-, -, -, h⟩ := h
  obtain ⟨nodes, asked, hnodes, hrest⟩ := Act.bind_eq_ok_iff.mp h
  have hasked := calls_of_admitNodes hnodes
  cases hfind : nodes.find? fun n => n.kind == .start with
  | none =>
    rw [hfind] at hrest
    cases hrest
  | some s =>
    simp only [hfind, Act.bind_eq_ok_iff, Act.ofExcept_eq_ok_iff, Act.pure_eq_ok_iff] at hrest
    obtain ⟨_, _, ⟨-, rfl⟩, _, _, ⟨-, rfl⟩, -, rfl⟩ := hrest
    exact hasked

/-- When there is a plan, the callbacks have been asked about every node in it. -/
theorem calls_of_compilePayload {payload : Option (Payload Workflow)}
    (h : compilePayload callbacks payload {} = (.ok p, calls)) :
    calls = ({} : Calls).about callbacks p.workflow.nodes := by
  obtain ⟨input, w, rfl, hload, hp⟩ := exists_planOf_of_compilePayload (congrArg Prod.fst h)
  simp only [compilePayload, hload] at h
  rw [(planOf_eq_ok_iff.mp hp).workflow_nodes]
  exact calls_of_compile h

end Plan

end JobChain
