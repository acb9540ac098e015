import JobChain.Proofs.Plan.Indexing
import Mathlib.Data.List.Pairwise

/-!
# Nodes and edges as lists with a first fault

A compilation takes the nodes and then the edges in the order in which they are listed, checks each
against those before it and ends at the first that is at fault.  The callbacks keep a record of
their arguments, but what the compilation comes to does not depend on that record.  So the outcome
can be told without it, by a scan of the list for its first fault.

* `firstFault?`: the scan.
* `firstFault?_eq_none_iff`: when the faults are about single members and about pairs of members,
  nothing is at fault iff every member is right and every pair is.
* `fst_admitNodes`, `admitEdges_eq`: compiling nodes and edges is scanning their normal forms.
-/

namespace JobChain

theorem unlessFault_eq_ok_iff {ε α : Type} {fault? : Option ε} {a b : α} :
    unlessFault fault? a = .ok b ↔ fault? = none ∧ a = b := by
  cases fault? <;> simp

theorem unlessFault_bind_eq_ok_iff {ε α β : Type} {fault? : Option ε} {a : α}
    {f : α → Except ε β} {b : β} :
    (unlessFault fault? a).bind f = .ok b ↔ fault? = none ∧ f a = .ok b := by
  cases fault? with
  | none => simp [Except.bind]
  | some e => simp [Except.bind]

/-- A guarded result is there iff the guard lets it pass. -/
theorem ite_error_eq_ok_iff {ε α : Type} {p : Prop} [Decidable p] {e : ε} {x : Except ε α} {a : α} :
    (if p then .error e else x) = .ok a ↔ ¬p ∧ x = .ok a := by
  split_ifs with h <;> simp [h]

/-- A guarded fault is absent iff the guard lets it pass and no other fault follows. -/
theorem ite_some_eq_none_iff {ε : Type} {p : Prop} [Decidable p] {e : ε} {fault? : Option ε} :
    (if p then some e else fault?) = none ↔ ¬p ∧ fault? = none := by
  split_ifs with h <;> simp [h]

/-! ## The scan -/

section Scan

variable {ε α : Type}

/-- The first fault of a list whose members are each checked against `earlier` and the members
before them. -/
def firstFault? (fault : List α → α → Option ε) (earlier : List α) : List α → Option ε
  | [] => none
  | a :: rest => (fault earlier a).or (firstFault? fault (earlier ++ [a]) rest)

@[simp] theorem firstFault?_nil (fault : List α → α → Option ε) (earlier : List α) :
    firstFault? fault earlier [] = none := rfl

theorem firstFault?_cons (fault : List α → α → Option ε) (earlier : List α) (a : α)
    (rest : List α) :
    firstFault? fault earlier (a :: rest) =
      (fault earlier a).or (firstFault? fault (earlier ++ [a]) rest) := rfl

/-- A check of each member by itself and against each member before it finds no fault iff it finds
none by itself and none in a pair. -/
theorem firstFault?_eq_none_iff {fault : List α → α → Option ε} {sound : α → Prop}
    {apart : α → α → Prop}
    (hfault : ∀ earlier a, fault earlier a = none ↔ sound a ∧ ∀ b ∈ earlier, apart b a)
    (l : List α) :
    firstFault? fault [] l = none ↔ (∀ a ∈ l, sound a) ∧ l.Pairwise apart := by
  -- the members met so far are held apart from all that follow, and from nothing else
  suffices h : ∀ earlier, firstFault? fault earlier l = none ↔
      (∀ a ∈ l, sound a) ∧ l.Pairwise apart ∧ ∀ b ∈ earlier, ∀ a ∈ l, apart b a by
    simpa using h []
  induction l with
  | nil => simp
  | cons a rest ih =>
    intro earlier
    rw [firstFault?_cons, Option.or_eq_none_iff, hfault, ih]
    simp only [List.forall_mem_cons, List.pairwise_cons, List.forall_mem_append, List.not_mem_nil,
      false_implies, implies_true, and_true]
    constructor
    · rintro ⟨⟨hs, ha⟩, hrest, hp, he, har⟩
      exact ⟨⟨hs, hrest⟩, ⟨har, hp⟩, fun b hb => ⟨ha b hb, he b hb⟩⟩
    · rintro ⟨⟨hs, hrest⟩, ⟨har, hp⟩, hb⟩
      exact ⟨⟨hs, fun b h => (hb b h).1⟩, hrest, hp, fun b h => (hb b h).2, har⟩

end Scan

/-! ## Nodes -/

section Nodes

variable (callbacks : Callbacks)

/-- What the supported types find wrong with a node. -/
def supportFault? (n : Node) : Option CompileStop :=
  match callbacks.supports with
  | none => none
  | some supports =>
    if supports n.type then none else some (.refused (.nodeUnsupported n.id n.type))

/-- What the check of conditions finds wrong with a node. -/
def conditionFault? (n : Node) : Option CompileStop :=
  match callbacks.validate with
  | none => none
  | some validate =>
    match validate n.ifCondition with
    | .ok () => none
    | .error failure => some (conditionStop n.id failure)

/-- What is wrong with a node for its kind, given the nodes before it. -/
def kindFault? (earlier : List Node) (n : Node) : Option CompileStop :=
  match n.kind with
  | .start =>
    if earlier.any fun m => m.kind == .start then some (.refused .startNotUnique) else none
  | .textEvent => if n.text = "" then some (.refused (.nodeWithoutText n.id)) else none
  | .delay => if n.delaySeconds < 0 then some (.refused (.nodeNegativeDelay n.id)) else none
  | .ifEvent => conditionFault? callbacks n
  | .custom =>
    if callbacks.supports.isNone then some (.refused (.nodeUnsupported n.id n.type)) else none

/-- What is wrong with a node in normal form, given the nodes before it. -/
def nodeFault? (earlier : List Node) (n : Node) : Option CompileStop :=
  if n.id = "" then some (.refused .nodeWithoutId)
  else if earlier.any fun m => m.id == n.id then some (.refused (.nodeRepeated n.id))
  else ((if n.kind = .start then none else supportFault? callbacks n)).or
    (kindFault? callbacks earlier n)

/-- What follows a step with a known fault runs iff there is none. -/
theorem fst_bind {α β : Type} {step : Compiling α} {fault? : Option CompileStop} {a : α}
    {calls : Calls} (h : (step calls).1 = unlessFault fault? a) (f : α → Compiling β) :
    ((step >>= f) calls).1 = (unlessFault fault? a).bind fun a => (f a (step calls).2).1 := by
  rw [Act.bind_apply, ← h]
  rcases step calls with ⟨result, calls'⟩
  cases result <;> rfl

theorem fst_refuseIf_bind {α : Type} (wrong : Bool) (reason : Refusal) (f : Unit → Compiling α)
    (calls : Calls) :
    ((refuseIf wrong reason >>= f) calls).1 =
      if wrong then .error (.refused reason) else (f () calls).1 := by
  rw [Act.bind_apply, refuseIf_apply]
  cases wrong <;> rfl

theorem fst_checkSupport (n : Node) (calls : Calls) :
    (callbacks.checks.support n calls).1 = unlessFault (supportFault? callbacks n) () := by
  show (checkSupport callbacks n calls).1 = _
  unfold checkSupport supportFault?
  cases callbacks.supports with
  | none => rfl
  | some supports =>
    cases h : supports n.type <;>
      simp [askSupport, Act.bind_apply, refuseIf, refuse, h]

theorem fst_checkCondition (n : Node) (calls : Calls) :
    (checkCondition callbacks n calls).1 = unlessFault (conditionFault? callbacks n) () := by
  unfold checkCondition conditionFault?
  cases callbacks.validate with
  | none => rfl
  | some validate =>
    simp only [Act.bind_apply, Act.modify_apply]
    cases validate n.ifCondition with
    | ok => rfl
    | error failure => rfl

theorem fst_checkKind (earlier : List Node) (n : Node) (calls : Calls) :
    (callbacks.checks.checkKind earlier n calls).1 =
      unlessFault (kindFault? callbacks earlier n) () := by
  unfold Checks.checkKind kindFault?
  cases n.kind with
  | ifEvent => exact fst_checkCondition callbacks n calls
  | _ =>
    simp only [refuseIf_apply, beq_iff_eq, decide_eq_true_eq, Callbacks.checks]
    split <;> rfl

theorem fst_admitNode (earlier : List Node) (raw : Node) (calls : Calls) :
    (callbacks.checks.admitNode earlier raw calls).1 =
      unlessFault (nodeFault? callbacks earlier raw.normalized) raw.normalized := by
  unfold Checks.admitNode nodeFault?
  simp only [fst_refuseIf_bind, beq_iff_eq]
  generalize raw.normalized = n
  by_cases hid : n.id = ""
  · rw [if_pos hid, if_pos hid, unlessFault_some]
  rw [if_neg hid, if_neg hid]
  by_cases hrepeated : (earlier.any fun m => m.id == n.id) = true
  · rw [if_pos hrepeated, if_pos hrepeated, unlessFault_some]
  rw [if_neg hrepeated, if_neg hrepeated]
  have hkind (calls' : Calls) :
      ((callbacks.checks.checkKind earlier n >>= fun _ => pure n) calls').1 =
        unlessFault (kindFault? callbacks earlier n) n := by
    rw [fst_bind (fst_checkKind callbacks earlier n calls')]
    cases kindFault? callbacks earlier n <;> rfl
  by_cases hstart : n.kind = .start
  · rw [if_pos hstart, if_neg (not_not_intro hstart), Option.none_or]
    exact hkind calls
  · rw [if_neg hstart, if_pos hstart, fst_bind (fst_checkSupport callbacks n calls)]
    cases supportFault? callbacks n with
    | some stop => rfl
    | none => exact hkind _

/-- Compiling nodes is scanning their normal forms for the first fault. -/
theorem fst_admitNodes (earlier raws : List Node) (calls : Calls) :
    (callbacks.checks.admitNodes earlier raws calls).1 =
      unlessFault (firstFault? (nodeFault? callbacks) earlier (raws.map Node.normalized))
        (earlier ++ raws.map Node.normalized) := by
  induction raws generalizing earlier calls with
  | nil => rw [List.map_nil, List.append_nil]; rfl
  | cons raw rest ih =>
    rw [List.map_cons, firstFault?_cons]
    show ((callbacks.checks.admitNode earlier raw >>= fun n =>
      callbacks.checks.admitNodes (earlier ++ [n]) rest) calls).1 = _
    rw [fst_bind (fst_admitNode callbacks earlier raw calls)]
    cases nodeFault? callbacks earlier raw.normalized with
    | some stop => rfl
    | none =>
      show (callbacks.checks.admitNodes (earlier ++ [raw.normalized]) rest _).1 = _
      rw [ih, Option.none_or, List.append_assoc, List.singleton_append]

end Nodes

/-! ## Edges -/

/-- Compiling edges is scanning their normal forms for the first fault. -/
theorem admitEdges_eq (nodes : List Node) (earlier raws : List Edge) :
    admitEdges nodes earlier raws =
      unlessFault (firstFault? (edgeFault? nodes) earlier (raws.map Edge.normalized))
        (earlier ++ raws.map Edge.normalized) := by
  induction raws generalizing earlier with
  | nil => rw [List.map_nil, List.append_nil]; rfl
  | cons raw rest ih =>
    rw [List.map_cons, firstFault?_cons, admitEdges]
    cases hfault : edgeFault? nodes earlier raw.normalized with
    | some reason => rfl
    | none =>
      show admitEdges nodes (earlier ++ [raw.normalized]) rest = _
      rw [ih, Option.none_or, List.append_assoc, List.singleton_append]

end JobChain
