import JobChain.Proofs.Plan.Admission
import JobChain.Proofs.Table
import Mathlib.Data.List.Dedup
import Mathlib.Data.List.Perm.Basic

/-!
# Paths and their links

A path is a list of ids, and its links are the pairs of an id with the next.  A chain of a workflow
is a path that the edges link, and a walk along successors is how such a path is found.

* `links`: the links of a path, with `map_fst_links` and `map_snd_links`.
* `perm_links`: pairs with distinct sources that contain the links of a path and have no other
  source are exactly the links.
* `Walk`: the walk along successors, as a relation, and `walkFrom_eq_ok_iff`, that it is what
  `walkFrom` computes when nothing is met twice.
-/

namespace JobChain

/-! ## Links -/

section Links

variable {α : Type}

/-- The links of a path: each member with the next. -/
def links : List α → List (α × α)
  | a :: b :: rest => (a, b) :: links (b :: rest)
  | _ => []

@[simp] theorem links_nil : links ([] : List α) = [] := rfl

@[simp] theorem links_singleton (a : α) : links [a] = [] := rfl

@[simp] theorem links_cons_cons (a b : α) (rest : List α) :
    links (a :: b :: rest) = (a, b) :: links (b :: rest) := rfl

theorem map_fst_links : ∀ path : List α, (links path).map Prod.fst = path.dropLast
  | [] => rfl
  | [_] => rfl
  | a :: b :: rest => by
    rw [links_cons_cons, List.map_cons, map_fst_links (b :: rest), List.dropLast_cons_cons]

theorem map_snd_links : ∀ path : List α, (links path).map Prod.snd = path.tail
  | [] => rfl
  | [_] => rfl
  | a :: b :: rest => by
    rw [links_cons_cons, List.map_cons, map_snd_links (b :: rest), List.tail_cons, List.tail_cons]

theorem nodup_links {path : List α} (h : path.Nodup) : (links path).Nodup := by
  refine List.Nodup.of_map Prod.fst ?_
  rw [map_fst_links]
  exact h.sublist (List.dropLast_sublist path)

theorem fst_mem_of_mem_links {path : List α} {link : α × α} (h : link ∈ links path) :
    link.1 ∈ path := by
  have hfront := List.mem_map_of_mem (f := Prod.fst) h
  rw [map_fst_links] at hfront
  exact (List.dropLast_sublist path).subset hfront

theorem snd_mem_of_mem_links {path : List α} {link : α × α} (h : link ∈ links path) :
    link.2 ∈ path := by
  have hrest := List.mem_map_of_mem (f := Prod.snd) h
  rw [map_snd_links] at hrest
  exact List.mem_of_mem_tail hrest

/-- A path without repetitions links no member to itself. -/
theorem fst_ne_snd_of_mem_links : ∀ {path : List α}, path.Nodup → ∀ link ∈ links path,
    link.1 ≠ link.2
  | a :: b :: rest, hpath, link, h => by
    obtain ⟨ha, hrest⟩ := List.nodup_cons.mp hpath
    rcases List.mem_cons.mp h with rfl | h
    · exact fun hab : a = b => ha (hab ▸ List.mem_cons_self)
    · exact fst_ne_snd_of_mem_links hrest link h

/-- A member of a path is its last or has a link to the next. -/
theorem exists_mem_links_of_ne_getLast : ∀ {path : List α} {a : α}, a ∈ path →
    path.getLast? ≠ some a → ∃ b, (a, b) ∈ links path
  | [c], a, ha, hlast => by
    rw [List.mem_singleton.mp ha] at hlast
    exact absurd rfl hlast
  | c :: d :: rest, a, ha, hlast => by
    rw [List.getLast?_cons_cons] at hlast
    rcases List.mem_cons.mp ha with rfl | ha
    · exact ⟨d, List.mem_cons_self⟩
    · obtain ⟨b, hb⟩ := exists_mem_links_of_ne_getLast ha hlast
      exact ⟨b, List.mem_cons_of_mem _ hb⟩

/-- What stands at two places in a row is linked. -/
theorem mem_links_of_getElem? : ∀ {path : List α} {i : Nat} {a b : α}, path[i]? = some a →
    path[i + 1]? = some b → (a, b) ∈ links path
  | _ :: _ :: _, 0, _, _, ha, hb => by
    cases ha
    cases hb
    exact List.mem_cons_self
  | _ :: c :: rest, i + 1, a, b, ha, hb => by
    have ha' : (c :: rest)[i]? = some a := ha
    have hb' : (c :: rest)[i + 1]? = some b := hb
    exact List.mem_cons_of_mem _ (mem_links_of_getElem? ha' hb')

/-- The last member of a path without repetitions is not found before. -/
theorem notMem_dropLast_of_getLast? {path : List α} {last : α} (h : path.Nodup)
    (hlast : path.getLast? = some last) : last ∉ path.dropLast := by
  obtain ⟨front, rfl⟩ := List.getLast?_eq_some_iff.mp hlast
  rw [List.dropLast_concat]
  exact fun hmem => (List.nodup_append.mp h).2.2 last hmem last List.mem_cons_self rfl

/-- Pairs with distinct sources that contain the links of a path, and have no source elsewhere and
none at the end of the path, are its links. -/
theorem perm_links {path : List α} {pairs : List (α × α)} (hpath : path.Nodup)
    (hsources : (pairs.map Prod.fst).Nodup) (hlinks : ∀ link ∈ links path, link ∈ pairs)
    (hmem : ∀ pair ∈ pairs, pair.1 ∈ path) (hlast : ∀ pair ∈ pairs, path.getLast? ≠ some pair.1) :
    pairs.Perm (links path) := by
  refine (List.perm_ext_iff_of_nodup hsources.of_map (nodup_links hpath)).mpr fun pair => ?_
  refine ⟨fun hpair => ?_, hlinks pair⟩
  obtain ⟨b, hb⟩ := exists_mem_links_of_ne_getLast (hmem pair hpair) (hlast pair hpair)
  have hsame : pair = (pair.1, b) :=
    List.inj_on_of_nodup_map hsources hpair (hlinks _ hb) rfl
  rw [hsame]
  exact hb

end Links

/-! ## Walks -/

section Walks

variable {nodes : Table Node} {next : Table String}

/-- A walk along successors from an id to where there is none: the ids that it meets, and their
nodes, none of which is a start. -/
inductive Walk (nodes : Table Node) (next : Table String) :
    String → List String → List Node → Prop
  | stop {id : String} (hnext : next.get? id = none) : Walk nodes next id [] []
  | step {id id' : String} {n : Node} {path : List String} {order : List Node}
      (hnext : next.get? id = some id') (hnode : nodes.get? id' = some n)
      (hkind : n.kind ≠ .start) (rest : Walk nodes next id' path order) :
      Walk nodes next id (id' :: path) (n :: order)

/-- A walk where there is no successor has come to its end. -/
theorem Walk.iff_of_none {id : String} {path : List String} {order : List Node}
    (hnext : next.get? id = none) :
    Walk nodes next id path order ↔ path = [] ∧ order = [] := by
  constructor
  · intro h
    cases h with
    | stop => exact ⟨rfl, rfl⟩
    | step hnext' => rw [hnext] at hnext'; cases hnext'
  · rintro ⟨rfl, rfl⟩
    exact .stop hnext

/-- A walk where there is a successor goes there, if it is a node that can be entered. -/
theorem Walk.iff_of_some {id id' : String} {path : List String} {order : List Node}
    (hnext : next.get? id = some id') :
    Walk nodes next id path order ↔ ∃ n path' order', nodes.get? id' = some n ∧
      n.kind ≠ .start ∧ path = id' :: path' ∧ order = n :: order' ∧
      Walk nodes next id' path' order' := by
  constructor
  · intro h
    cases h with
    | stop hnext' => rw [hnext] at hnext'; cases hnext'
    | step hnext' hnode hkind rest =>
      rw [hnext] at hnext'
      cases hnext'
      exact ⟨_, _, _, hnode, hkind, rfl, rfl, rest⟩
  · rintro ⟨n, path', order', hnode, hkind, rfl, rfl, rest⟩
    exact .step hnext hnode hkind rest

/-- What there is to a walk from an id along a path: every link of the path is a successor, the last
member has none, and the order lists the nodes of the path, none of them a start. -/
theorem walk_iff {id : String} {path : List String} {order : List Node} :
    Walk nodes next id path order ↔
      (∀ link ∈ links (id :: path), next.get? link.1 = some link.2) ∧
      (∀ last, (id :: path).getLast? = some last → next.get? last = none) ∧
      List.Forall₂ (fun i n => nodes.get? i = some n ∧ n.kind ≠ .start) path order := by
  constructor
  · intro h
    induction h with
    | stop hnext =>
      refine ⟨by simp, ?_, .nil⟩
      rintro last hlast
      rw [List.getLast?_singleton, Option.some.injEq] at hlast
      rw [← hlast, hnext]
    | step hnext hnode hkind _ ih =>
      obtain ⟨hlinks, hlast, horder⟩ := ih
      refine ⟨?_, ?_, .cons ⟨hnode, hkind⟩ horder⟩
      · rw [links_cons_cons]
        exact List.forall_mem_cons.mpr ⟨hnext, hlinks⟩
      · rwa [List.getLast?_cons_cons]
  · rintro ⟨hlinks, hlast, horder⟩
    induction horder generalizing id with
    | nil => exact .stop (hlast id (List.getLast?_singleton))
    | cons hnode _ ih =>
      rw [links_cons_cons] at hlinks
      rw [List.getLast?_cons_cons] at hlast
      obtain ⟨hnext, hlinks⟩ := List.forall_mem_cons.mp hlinks
      exact .step hnext hnode.1 hnode.2 (ih hlinks hlast)

theorem walkFrom_of_none {seen : List String} {id : String} (hnext : next.get? id = none) :
    walkFrom nodes next seen id = .ok [] := by
  rw [walkFrom]
  split <;> simp_all

theorem walkFrom_of_some {seen : List String} {id id' : String}
    (hnext : next.get? id = some id') :
    walkFrom nodes next seen id =
      if id' ∈ seen then .error (.refused .cycle)
      else
        match nodes.get? id' with
        | none => .error (.missingNode id')
        | some n =>
          if n.kind = .start then .error (.refused .startInChain)
          else (walkFrom nodes next (id' :: seen) id').map (n :: ·) := by
  rw [walkFrom]
  split
  · simp_all
  · rename_i found hfound
    rw [hnext] at hfound
    cases hfound
    split_ifs <;> rfl

/-- Walking comes to an end iff there is a walk that meets nothing twice and nothing seen. -/
theorem walkFrom_eq_ok_iff {seen : List String} {id : String} {order : List Node} :
    walkFrom nodes next seen id = .ok order ↔
      ∃ path, Walk nodes next id path order ∧ path.Nodup ∧ ∀ i ∈ path, i ∉ seen := by
  induction seen, id using walkFrom.induct nodes next generalizing order with
  | case1 seen id hnext =>
    simp only [walkFrom_of_none hnext, Walk.iff_of_none hnext, Except.ok.injEq]
    constructor
    · rintro rfl
      exact ⟨[], ⟨rfl, rfl⟩, List.nodup_nil, by simp⟩
    · rintro ⟨path, ⟨-, rfl⟩, -⟩
      rfl
  | case2 seen id id' hnext hmet =>
    simp only [walkFrom_of_some hnext, if_pos hmet, Walk.iff_of_some hnext, reduceCtorEq, false_iff]
    rintro ⟨path, ⟨n, path', order', -, -, rfl, -⟩, -, hseen⟩
    exact hseen id' List.mem_cons_self hmet
  | case3 seen id id' hnext hnew hnode =>
    simp only [walkFrom_of_some hnext, if_neg hnew, hnode, Walk.iff_of_some hnext, reduceCtorEq,
      false_and, exists_false]
  | case4 seen id id' hnext hnew n hnode hkind =>
    simp only [walkFrom_of_some hnext, if_neg hnew, hnode, if_pos hkind, Walk.iff_of_some hnext,
      reduceCtorEq, Option.some.injEq, false_iff]
    rintro ⟨path, ⟨n', path', order', rfl, hkind', -⟩, -⟩
    exact hkind' hkind
  | case5 seen id id' hnext hnew n hnode hkind ih =>
    simp only [walkFrom_of_some hnext, if_neg hnew, hnode, if_neg hkind, Walk.iff_of_some hnext,
      Option.some.injEq]
    constructor
    · intro h
      cases hrest : walkFrom nodes next (id' :: seen) id' with
      | error stop => rw [hrest] at h; cases h
      | ok order' =>
        rw [hrest] at h
        cases h
        obtain ⟨path, hwalk, hnodup, hseen⟩ := ih.mp hrest
        refine ⟨id' :: path, ⟨n, path, order', rfl, hkind, rfl, rfl, hwalk⟩, ?_, ?_⟩
        · exact List.nodup_cons.mpr ⟨fun h => hseen id' h List.mem_cons_self, hnodup⟩
        · exact List.forall_mem_cons.mpr
            ⟨hnew, fun i hi h => hseen i hi (List.mem_cons_of_mem _ h)⟩
    · rintro ⟨path, ⟨n', path', order', rfl, -, rfl, rfl, hwalk⟩, hnodup, hseen⟩
      obtain ⟨hfirst, hnodup'⟩ := List.nodup_cons.mp hnodup
      have hrest : walkFrom nodes next (id' :: seen) id' = .ok order' := by
        refine ih.mpr ⟨path', hwalk, hnodup', fun i hi h => ?_⟩
        rcases List.mem_cons.mp h with rfl | h
        · exact hfirst hi
        · exact hseen i (List.mem_cons_of_mem _ hi) h
      rw [hrest]
      rfl

end Walks

end JobChain
