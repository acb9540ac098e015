import JobChain.Proofs.Plan.Links

/-!
# The path that a walk follows

Any table of successors has a path from any start: from each id to its successor, as long as there
is one.  The path may run on forever, into a cycle, or into ids that are no nodes.  A walk follows
it and looks at every id that it comes to: whether it has been met, whether it is a node, and
whether its node is a start.  The first id with which something is wrong ends the walk.

The walk has no bound of its own.  It is over because the ids that it has left behind are different
and each has a successor, so that there are no more of them than successors.

* `pathAt`: the id at a place of the path.
* `Offends`: what is wrong with the id that follows a place, and `FirstOffends`, the first such
  place.
* `PathEnds`: nothing is wrong anywhere, and the path comes to an end.
* `decidedFrom_walkFrom`: what a walk comes to from any place on.
* `walkChain_decided_by_path`: the path decides what the walk comes to, and in how many steps.
-/

namespace JobChain

section Paths

variable {nodes : Table Node} {next : Table String} {start : String}

/-! ## Places of a path -/

/-- The id at a place of the path along successors, if the path gets there. -/
def pathAt (next : Table String) (start : String) : Nat → Option String
  | 0 => some start
  | i + 1 => (pathAt next start i).bind next.get?

@[simp] theorem pathAt_zero (next : Table String) (start : String) :
    pathAt next start 0 = some start := rfl

theorem pathAt_succ (next : Table String) (start : String) (i : Nat) :
    pathAt next start (i + 1) = (pathAt next start i).bind next.get? := rfl

theorem pathAt_succ_of_eq_some {i : Nat} {id : String} (h : pathAt next start i = some id) :
    pathAt next start (i + 1) = next.get? id := by
  rw [pathAt_succ, h, Option.bind_some]

/-- A path that has come to its end does not go on. -/
theorem pathAt_eq_none_of_le {i j : Nat} (h : pathAt next start i = none) (hij : i ≤ j) :
    pathAt next start j = none := by
  obtain ⟨d, rfl⟩ := Nat.exists_eq_add_of_le hij
  clear hij
  induction d with
  | zero => exact h
  | succ d ih => rw [← Nat.add_assoc, pathAt_succ, ih, Option.bind_none]

/-- A path that gets to a place has passed all places before. -/
theorem exists_pathAt_of_le {i j : Nat} {id : String} (h : pathAt next start j = some id)
    (hij : i ≤ j) : ∃ id', pathAt next start i = some id' := by
  cases hat : pathAt next start i with
  | none =>
    rw [pathAt_eq_none_of_le hat hij] at h
    cases h
  | some id' => exact ⟨id', rfl⟩

/-! ## What can be wrong on a path -/

/-- What is wrong with the id that follows place `i` of the path: it has been met on the way, or
else it is no node, or else its node is a start. -/
inductive Offends (nodes : Table Node) (next : Table String) (start : String) (i : Nat) :
    CompileStop → Prop
  | met {id : String} {j : Nat} (hid : pathAt next start (i + 1) = some id) (hj : j ≤ i)
      (hmet : pathAt next start j = some id) : Offends nodes next start i (.refused .cycle)
  | unknown {id : String} (hid : pathAt next start (i + 1) = some id)
      (hnew : ∀ j ≤ i, pathAt next start j ≠ some id) (hnode : nodes.get? id = none) :
      Offends nodes next start i (.missingNode id)
  | start {id : String} {n : Node} (hid : pathAt next start (i + 1) = some id)
      (hnew : ∀ j ≤ i, pathAt next start j ≠ some id) (hnode : nodes.get? id = some n)
      (htype : n.type = "start") : Offends nodes next start i (.refused .startInChain)

/-- Something is wrong after place `i` of the path, and nothing is before. -/
def FirstOffends (nodes : Table Node) (next : Table String) (start : String) (i : Nat)
    (stop : CompileStop) : Prop :=
  Offends nodes next start i stop ∧ ∀ j < i, ∀ other, ¬Offends nodes next start j other

/-- The path comes to its end with nothing wrong on the way, and `order` lists the nodes of its ids
after the start. -/
structure PathEnds (nodes : Table Node) (next : Table String) (start : String)
    (order : List Node) : Prop where
  clear : ∀ i stop, ¬Offends nodes next start i stop
  ends : pathAt next start (order.length + 1) = none
  nodes : ∀ i, order[i]? = (pathAt next start (i + 1)).bind nodes.get?

theorem Offends.exists_pathAt {i : Nat} {stop : CompileStop}
    (h : Offends nodes next start i stop) : ∃ id, pathAt next start (i + 1) = some id := by
  cases h with
  | met hid _ _ => exact ⟨_, hid⟩
  | unknown hid _ _ => exact ⟨_, hid⟩
  | start hid _ _ _ => exact ⟨_, hid⟩

/-- At most one thing is wrong with an id. -/
theorem Offends.unique {i : Nat} {stop stop' : CompileStop} (h : Offends nodes next start i stop)
    (h' : Offends nodes next start i stop') : stop = stop' := by
  cases h with
  | met hid hj hmet =>
    cases h' with
    | met _ _ _ => rfl
    | unknown hid' hnew _ => exact absurd (hmet.trans (hid.symm.trans hid')) (hnew _ hj)
    | start hid' hnew _ _ => exact absurd (hmet.trans (hid.symm.trans hid')) (hnew _ hj)
  | unknown hid hnew hnode =>
    cases h' with
    | met hid' hj hmet => exact absurd (hmet.trans (hid'.symm.trans hid)) (hnew _ hj)
    | unknown hid' _ _ => rw [Option.some.inj (hid.symm.trans hid')]
    | start hid' _ hnode' _ =>
      rw [Option.some.inj (hid.symm.trans hid'), hnode'] at hnode
      cases hnode
  | start hid hnew hnode htype =>
    cases h' with
    | met hid' hj hmet => exact absurd (hmet.trans (hid'.symm.trans hid)) (hnew _ hj)
    | unknown hid' _ hnode' =>
      rw [Option.some.inj (hid.symm.trans hid'), hnode'] at hnode
      cases hnode
    | start _ _ _ _ => rfl

theorem FirstOffends.unique {i i' : Nat} {stop stop' : CompileStop}
    (h : FirstOffends nodes next start i stop) (h' : FirstOffends nodes next start i' stop') :
    stop = stop' := by
  rcases Nat.lt_trichotomy i i' with hlt | rfl | hlt
  · exact absurd h.1 (h'.2 i hlt stop)
  · exact h.1.unique h'.1
  · exact absurd h'.1 (h.2 i' hlt stop')

theorem PathEnds.unique {order order' : List Node} (h : PathEnds nodes next start order)
    (h' : PathEnds nodes next start order') : order = order' :=
  List.ext_getElem? fun i => (h.nodes i).trans (h'.nodes i).symm

/-- An id with which nothing is wrong is new, and a node that can be entered. -/
theorem enters_of_not_offends {i : Nat} {id : String} (hid : pathAt next start (i + 1) = some id)
    (h : ∀ stop, ¬Offends nodes next start i stop) :
    (∀ j ≤ i, pathAt next start j ≠ some id) ∧
      ∃ n, nodes.get? id = some n ∧ n.type ≠ "start" := by
  have hnew (j : Nat) (hj : j ≤ i) : pathAt next start j ≠ some id := fun hmet =>
    h _ (.met hid hj hmet)
  refine ⟨hnew, ?_⟩
  cases hnode : nodes.get? id with
  | none => exact absurd (.unknown hid hnew hnode) (h _)
  | some n => exact ⟨n, rfl, fun htype => h _ (.start hid hnew hnode htype)⟩

/-! ## How long a path is -/

/-- As long as nothing is wrong, no id is met twice. -/
theorem pathAt_ne_of_clear {i j : Nat} {id : String} (hid : pathAt next start j = some id)
    (hclear : ∀ l < j, ∀ stop, ¬Offends nodes next start l stop) (hij : i < j) :
    pathAt next start i ≠ some id := by
  obtain ⟨l, rfl⟩ := Nat.exists_eq_add_one_of_ne_zero (Nat.ne_zero_of_lt hij)
  have hl := Nat.lt_succ_self l
  exact (enters_of_not_offends hid (hclear l hl)).1 i (Nat.le_of_lt_succ hij)

/-- The ids that a path has left behind are different, as long as nothing is wrong, and each has a
successor. -/
theorem le_length_of_pathAt {k : Nat} {id : String} (hid : pathAt next start k = some id)
    (hclear : ∀ i, i + 1 < k → ∀ stop, ¬Offends nodes next start i stop) : k ≤ next.length := by
  have hnodup : ((List.range k).map (pathAt next start)).Nodup := by
    refine List.Nodup.map_on (fun i hi j hj hij => ?_) List.nodup_range
    rw [List.mem_range] at hi hj
    obtain ⟨a, ha⟩ := exists_pathAt_of_le hid (Nat.le_of_lt hi)
    have hb : pathAt next start j = some a := hij ▸ ha
    have hne {l m : Nat} (hm : m < k) (hm' : pathAt next start m = some a) (hlm : l < m) :
        pathAt next start l ≠ some a :=
      pathAt_ne_of_clear hm' (fun c hc => hclear c (by omega)) hlm
    rcases Nat.lt_trichotomy i j with hlt | heq | hlt
    · exact absurd ha (hne hj hb hlt)
    · exact heq
    · exact absurd hb (hne hi ha hlt)
  have hsubset : (List.range k).map (pathAt next start) ⊆ next.names.map some := by
    intro at? hmem
    obtain ⟨i, hi, rfl⟩ := List.mem_map.mp hmem
    obtain ⟨a, ha⟩ := exists_pathAt_of_le hid (Nat.le_of_lt (List.mem_range.mp hi))
    obtain ⟨b, hb⟩ := exists_pathAt_of_le hid (List.mem_range.mp hi)
    have hnext : next.get? a = some b := by rw [← pathAt_succ_of_eq_some ha, hb]
    rw [ha]
    exact List.mem_map_of_mem (List.mem_map_of_mem (Table.mem_of_get?_eq_some hnext))
  have hlength := (List.subperm_of_subset hnodup hsubset).length_le
  rwa [List.length_map, List.length_range, List.length_map, Table.names, List.length_map] at hlength

/-! ## Walks -/

/-- What a walk that has come to place `k` of the path comes to: an id with which something is
wrong, the first from there on, or the end of the path. -/
def DecidedFrom (nodes : Table Node) (next : Table String) (start : String) (k : Nat) :
    Except CompileStop (List Node) → Prop
  | .ok order =>
    (∀ i, k ≤ i → ∀ stop, ¬Offends nodes next start i stop) ∧
      pathAt next start (k + order.length + 1) = none ∧
      ∀ i, order[i]? = (pathAt next start (k + i + 1)).bind nodes.get?
  | .error stop =>
    ∃ i, k ≤ i ∧ Offends nodes next start i stop ∧
      ∀ j, k ≤ j → j < i → ∀ other, ¬Offends nodes next start j other

/-- One step of a walk: the next id is a node, and the others are decided from there on. -/
theorem DecidedFrom.step {k : Nat} {id : String} {n : Node}
    {result : Except CompileStop (List Node)}
    (h : DecidedFrom nodes next start (k + 1) result) (hid : pathAt next start (k + 1) = some id)
    (hnode : nodes.get? id = some n) (hclear : ∀ stop, ¬Offends nodes next start k stop) :
    DecidedFrom nodes next start k (result.map (n :: ·)) := by
  cases result with
  | error stop =>
    obtain ⟨i, hki, hoffends, hfirst⟩ := h
    refine ⟨i, by omega, hoffends, fun j hkj hji => ?_⟩
    rcases Nat.eq_or_lt_of_le hkj with rfl | hlt
    · exact hclear
    · exact hfirst j hlt hji
  | ok order =>
    obtain ⟨hrest, hends, hnodes⟩ := h
    refine ⟨fun i hki => ?_, ?_, fun i => ?_⟩
    · rcases Nat.eq_or_lt_of_le hki with rfl | hlt
      · exact hclear
      · exact hrest i hlt
    · rw [List.length_cons, ← Nat.add_assoc, Nat.add_right_comm k]
      exact hends
    · cases i with
      | zero => rw [Nat.add_zero, hid, Option.bind_some, hnode, List.getElem?_cons_zero]
      | succ i =>
        rw [List.getElem?_cons_succ, hnodes i, ← Nat.add_assoc, Nat.add_right_comm k]

/-- From a place of the path on, a walk that has met the ids up to there comes to what the path
decides. -/
theorem decidedFrom_walkFrom {seen : List String} {id : String} {k : Nat}
    (hid : pathAt next start k = some id)
    (hseen : ∀ i, i ∈ seen ↔ ∃ j ≤ k, pathAt next start j = some i) :
    DecidedFrom nodes next start k (walkFrom nodes next seen id) := by
  induction seen, id using walkFrom.induct nodes next generalizing k with
  | case1 seen id hnext =>
    -- there is no successor, and nothing can be wrong with what is not there
    have hend : pathAt next start (k + 1) = none := by rw [pathAt_succ_of_eq_some hid, hnext]
    rw [walkFrom_of_none hnext]
    refine ⟨fun i hki stop hoffends => ?_, hend, fun i => ?_⟩
    · obtain ⟨id', hid'⟩ := hoffends.exists_pathAt
      rw [pathAt_eq_none_of_le hend (by omega)] at hid'
      cases hid'
    · rw [pathAt_eq_none_of_le hend (by omega), List.getElem?_nil, Option.bind_none]
  | case2 seen id id' hnext hmet =>
    obtain ⟨j, hj, hat⟩ := (hseen id').mp hmet
    rw [walkFrom_of_some hnext, if_pos hmet]
    have hid' : pathAt next start (k + 1) = some id' := by rw [pathAt_succ_of_eq_some hid, hnext]
    exact ⟨k, Nat.le_refl k, .met hid' hj hat, fun j hkj hjk => by omega⟩
  | case3 seen id id' hnext hnew hnode =>
    have hid' : pathAt next start (k + 1) = some id' := by rw [pathAt_succ_of_eq_some hid, hnext]
    have hnew' (j : Nat) (hj : j ≤ k) (hat : pathAt next start j = some id') : False :=
      hnew ((hseen id').mpr ⟨j, hj, hat⟩)
    simp only [walkFrom_of_some hnext, if_neg hnew, hnode]
    exact ⟨k, Nat.le_refl k, .unknown hid' hnew' hnode, fun j hkj hjk => by omega⟩
  | case4 seen id id' hnext hnew n hnode hkind =>
    have hid' : pathAt next start (k + 1) = some id' := by rw [pathAt_succ_of_eq_some hid, hnext]
    have hnew' (j : Nat) (hj : j ≤ k) (hat : pathAt next start j = some id') : False :=
      hnew ((hseen id').mpr ⟨j, hj, hat⟩)
    simp only [walkFrom_of_some hnext, if_neg hnew, hnode, if_pos hkind]
    exact ⟨k, Nat.le_refl k, .start hid' hnew' hnode (NodeKind.ofType_eq_start_iff.mp hkind),
      fun j hkj hjk => by omega⟩
  | case5 seen id id' hnext hnew n hnode hkind ih =>
    have hid' : pathAt next start (k + 1) = some id' := by rw [pathAt_succ_of_eq_some hid, hnext]
    simp only [walkFrom_of_some hnext, if_neg hnew, hnode, if_neg hkind]
    refine (ih hid' fun i => ?_).step hid' hnode fun stop hoffends => ?_
    · -- the ids up to the next place are those up to here and the next one
      rw [List.mem_cons, hseen]
      constructor
      · rintro (rfl | ⟨j, hj, hat⟩)
        · exact ⟨k + 1, Nat.le_refl _, hid'⟩
        · exact ⟨j, Nat.le_succ_of_le hj, hat⟩
      · rintro ⟨j, hj, hat⟩
        rcases Nat.eq_or_lt_of_le hj with rfl | hlt
        · exact .inl (Option.some.inj (hat.symm.trans hid'))
        · exact .inr ⟨j, Nat.le_of_lt_succ hlt, hat⟩
    · cases hoffends with
      | met hid'' hj hmet =>
        cases hid'.symm.trans hid''
        exact hnew ((hseen id').mpr ⟨_, hj, hmet⟩)
      | unknown hid'' _ hnode' =>
        cases hid'.symm.trans hid''
        rw [hnode] at hnode'
        cases hnode'
      | start hid'' _ hnode' htype =>
        cases hid'.symm.trans hid''
        cases hnode.symm.trans hnode'
        exact hkind (NodeKind.ofType_eq_start_iff.mpr htype)

/-- A walk comes to what the path from its start decides. -/
theorem decided_walkChain (nodes : Table Node) (next : Table String) (start : String) :
    (∃ order, walkChain nodes next start = .ok order ∧ PathEnds nodes next start order) ∨
      ∃ i stop, walkChain nodes next start = .error stop ∧
        FirstOffends nodes next start i stop := by
  have hseen (i : String) : i ∈ [start] ↔ ∃ j ≤ 0, pathAt next start j = some i := by
    simp [eq_comm]
  have h : DecidedFrom nodes next start 0 (walkFrom nodes next [start] start) :=
    decidedFrom_walkFrom (pathAt_zero next start) hseen
  rw [walkChain]
  cases hwalk : walkFrom nodes next [start] start with
  | ok order =>
    rw [hwalk] at h
    obtain ⟨hclear, hends, hnodes⟩ := h
    refine .inl ⟨order, rfl, fun i => hclear i (Nat.zero_le i), ?_, fun i => ?_⟩
    · rwa [Nat.zero_add] at hends
    · rw [hnodes i, Nat.zero_add]
  | error stop =>
    rw [hwalk] at h
    obtain ⟨i, -, hoffends, hfirst⟩ := h
    exact .inr ⟨i, stop, rfl, hoffends, fun j hji => hfirst j (Nat.zero_le j) hji⟩

/-- A path that ends has passed as many places as it has nodes after its start. -/
theorem PathEnds.exists_pathAt {order : List Node} (h : PathEnds nodes next start order) :
    ∃ id, pathAt next start order.length = some id := by
  cases hlength : order.length with
  | zero => exact ⟨start, rfl⟩
  | succ k =>
    have hlast : order[k]? = some order[k] := List.getElem?_eq_getElem (by omega)
    rw [h.nodes k] at hlast
    obtain ⟨id, hid, -⟩ := Option.bind_eq_some_iff.mp hlast
    exact ⟨id, hid⟩

theorem PathEnds.type_ne {order : List Node} (h : PathEnds nodes next start order) {n : Node}
    (hn : n ∈ order) : n.type ≠ "start" := by
  obtain ⟨i, hi⟩ := List.mem_iff_getElem?.mp hn
  rw [h.nodes i] at hi
  obtain ⟨id, hid, hnode⟩ := Option.bind_eq_some_iff.mp hi
  obtain ⟨-, n', hnode', htype⟩ := enters_of_not_offends hid (h.clear i)
  rwa [Option.some.inj (hnode.symm.trans hnode')]

/-- The path from its start decides what a walk comes to, whatever the nodes and successors are.  It
yields the nodes of the path if the path comes to an end with nothing wrong on the way, and then no
id was met twice and no node is a start; otherwise the first id with which something is wrong tells
why it stops.  In either case it has gone no further than there are successors. -/
theorem walkChain_decided_by_path (nodes : Table Node) (next : Table String) (start : String) :
    (∀ order, walkChain nodes next start = .ok order ↔ PathEnds nodes next start order) ∧
      (∀ stop, walkChain nodes next start = .error stop ↔
        ∃ i, FirstOffends nodes next start i stop) ∧
      (∀ order, PathEnds nodes next start order →
        order.length ≤ next.length ∧
          (∀ i j, i < j → j ≤ order.length → pathAt next start i ≠ pathAt next start j) ∧
          ∀ n ∈ order, n.type ≠ "start") ∧
      ∀ i stop, FirstOffends nodes next start i stop → i < next.length := by
  refine ⟨fun order => ?_, fun stop => ?_, fun order h => ⟨?_, ?_, fun n => h.type_ne⟩, ?_⟩
  · rcases decided_walkChain nodes next start with ⟨order', hwalk, hends⟩ | ⟨i, stop, hwalk, hfirst⟩
    · rw [hwalk, Except.ok.injEq]
      exact ⟨fun heq => heq ▸ hends, fun h => hends.unique h⟩
    · rw [hwalk]
      constructor
      · intro h
        cases h
      · intro h
        exact absurd hfirst.1 (h.clear i stop)
  · rcases decided_walkChain nodes next start with ⟨order, hwalk, hends⟩ | ⟨i, stop', hwalk, hfirst⟩
    · rw [hwalk]
      constructor
      · intro h
        cases h
      · rintro ⟨i, h⟩
        exact absurd h.1 (hends.clear i stop)
    · rw [hwalk, Except.error.injEq]
      constructor
      · rintro rfl
        exact ⟨i, hfirst⟩
      · rintro ⟨_, h⟩
        exact hfirst.unique h
  · obtain ⟨id, hid⟩ := h.exists_pathAt
    exact le_length_of_pathAt hid fun i _ => h.clear i
  · intro i j hij hj heq
    obtain ⟨last, hlast⟩ := h.exists_pathAt
    obtain ⟨id, hid⟩ := exists_pathAt_of_le hlast hj
    exact pathAt_ne_of_clear hid (fun l _ => h.clear l) hij (heq.trans hid)
  · intro i stop h
    obtain ⟨id, hid⟩ := h.1.exists_pathAt
    exact le_length_of_pathAt hid fun j hj => h.2 j (by omega)

/-- Nodes of which two are on a cycle and one is not. -/
def loopAndLineNodes : Table Node :=
  [("a", { id := "a", type := "delay" }), ("b", { id := "b", type := "delay" }),
    ("c", { id := "c", type := "delay" })]

/-- Successors that lead from one start into the cycle and from another to a last node. -/
def loopAndLineNext : Table String := [("s", "a"), ("a", "b"), ("b", "a"), ("t", "c")]

theorem walkChain_decided_by_path_loopAndLine :
    (∃ i, FirstOffends loopAndLineNodes loopAndLineNext "s" i (.refused .cycle) ∧ i < 4) ∧
      PathEnds loopAndLineNodes loopAndLineNext "t" [{ id := "c", type := "delay" }] := by
  constructor
  · obtain ⟨-, herror, -, hbound⟩ :=
      walkChain_decided_by_path loopAndLineNodes loopAndLineNext "s"
    obtain ⟨i, hi⟩ := (herror (.refused .cycle)).mp (by decide +kernel)
    exact ⟨i, hi, hbound i _ hi⟩
  · exact ((walkChain_decided_by_path loopAndLineNodes loopAndLineNext "t").1 _).mp
      (by decide +kernel)

end Paths

end JobChain
