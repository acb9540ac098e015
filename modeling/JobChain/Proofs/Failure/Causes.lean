import JobChain.Proofs.Failure.Cancellation
import Mathlib.Data.List.Basic
import Mathlib.Logic.Relation
import Mathlib.Tactic.SplitIfs

/-!
# Cancellations and the objects behind them

Causes may form a cycle, so the walk along them stops where it would return to an object.  Nothing
is lost by that.  Every object has one cause at most, and the walk leaves an object behind only if
it is no cancellation and its cause is where the walk goes next.  So the objects that the walk has
left behind, when it stops without an answer, form a region without cancellations that no cause
leads out of, and whatever the raised object goes back to lies in that region.

* `FailureClass.Extends`: a class is another or comes below it, with `isInterruption_iff` for the
  two that matter.
* `GoesBackTo`: the objects behind a failure, through any number of causes.
* `IsQuiet`: places without cancellations, and where their causes lie, with
  `exists_isQuiet_of_not_meetsInterruption` for the region in which the walk ends.
* `isCancellation_iff`: the walk finds a cancellation iff there is one to be found.
* `meetsInterruptionWithin_eq`: it ends within as many rounds as there are places it has not seen.
* `isCancellation_decided_by_causes`: both, and what makes no difference to the walk.
-/

namespace JobChain

/-! ## Classes -/

namespace FailureClass

/-- The classes next above a class. -/
def parents : FailureClass → List FailureClass
  | runtime | value | connection | timeout | poolCancelled | compiler | lookup | markup
  | overflow => [general]
  | deadline => [timeout]
  | validation | execution => [compiler]
  | condition => [validation]
  | nodeExecution => [execution]
  | record | decoding => [value]
  | derived _ base other => [base, other]
  | general | cancelled | abort => []

/-- A class is another one or comes below it. -/
def Extends : FailureClass → FailureClass → Prop :=
  Relation.ReflTransGen fun k above => above ∈ k.parents

/-- What is below a class of cancellations or timeouts is one. -/
theorem isInterruption_of_mem_parents {k above : FailureClass} (hparent : above ∈ k.parents)
    (h : above.isInterruption = true) : k.isInterruption = true := by
  cases k with
  | timeout | deadline | cancelled => rfl
  | derived name base other =>
    obtain rfl | rfl := List.mem_pair.mp hparent
    · exact Bool.or_eq_true_iff.mpr (.inl h)
    · exact Bool.or_eq_true_iff.mpr (.inr h)
  | general | abort => cases hparent
  | _ =>
    obtain rfl := List.mem_singleton.mp hparent
    cases h

theorem Extends.isInterruption {k above : FailureClass} (h : k.Extends above)
    (habove : above.isInterruption = true) : k.isInterruption = true := by
  induction h using Relation.ReflTransGen.head_induction_on with
  | refl => exact habove
  | head hparent _ ih => exact isInterruption_of_mem_parents hparent ih

/-- The cancellations and timeouts are the classes from that of cancellations and from that of
timeouts downwards. -/
theorem isInterruption_iff {k : FailureClass} :
    k.isInterruption = true ↔ k.Extends cancelled ∨ k.Extends timeout := by
  constructor
  · intro h
    induction k with
    | timeout => exact .inr .refl
    | deadline => exact .inr (.single (List.mem_singleton.mpr rfl))
    | cancelled => exact .inl .refl
    | derived name base other hbase hother =>
      rcases Bool.or_eq_true_iff.mp h with h | h
      · have hparent : base ∈ (derived name base other).parents := List.mem_cons_self
        exact (hbase h).imp (.head hparent) (.head hparent)
      · have hparent : other ∈ (derived name base other).parents :=
          List.mem_cons_of_mem _ List.mem_cons_self
        exact (hother h).imp (.head hparent) (.head hparent)
    | _ => cases h
  · rintro (h | h)
    · exact h.isInterruption rfl
    · exact h.isInterruption rfl

end FailureClass

namespace Failure

/-! ## What a failure goes back to -/

/-- The object at a place was raised from the one at another: it names that place as its cause. -/
def RaisedFrom (objects : List FailureObject) (place cause : Nat) : Prop :=
  ∃ o, objects[place]? = some o ∧ o.cause = some cause

/-- An object is the one that was raised, or one that it was raised from through some causes. -/
def GoesBackTo (f : Failure) (o : FailureObject) : Prop :=
  ∃ place, Relation.ReflTransGen (RaisedFrom f.objects) f.root place ∧ f.objects[place]? = some o

section Walk

variable {objects : List FailureObject} {seen region within : List Nat} {place : Nat}
  {o : FailureObject}

/-- What the walk finds can be found along causes. -/
theorem exists_of_meetsInterruption (h : meetsInterruption objects seen place = true) :
    ∃ found o, Relation.ReflTransGen (RaisedFrom objects) place found ∧
      objects[found]? = some o ∧ o.kind.isInterruption = true := by
  induction seen, place using meetsInterruption.induct objects with
  | case1 seen place hseen =>
    rw [meetsInterruption_eq, if_pos hseen] at h
    cases h
  | case2 seen place hnew hnone =>
    rw [meetsInterruption_eq, if_neg hnew, hnone] at h
    cases h
  | case3 seen place hnew o ho hkind => exact ⟨place, o, .refl, ho, hkind⟩
  | case4 seen place hnew o ho hkind hcause =>
    rw [meetsInterruption_of_cause_eq_none hnew ho hkind hcause] at h
    cases h
  | case5 seen place hnew o ho hkind next hcause ih =>
    rw [meetsInterruption_of_cause_eq_some hnew ho hkind hcause] at h
    obtain ⟨found, o', hpath, hfound, hinterrupts⟩ := ih h
    exact ⟨found, o', hpath.head ⟨o, ho, hcause⟩, hfound, hinterrupts⟩

/-- The places of a region hold no cancellation or timeout, and their causes lie within some
places. -/
structure IsQuiet (objects : List FailureObject) (region within : List Nat) : Prop where
  quiet : ∀ place ∈ region, ∀ o, objects[place]? = some o → o.kind.isInterruption = false
  causes : ∀ place ∈ region, ∀ cause, RaisedFrom objects place cause → cause ∈ within

theorem isQuiet_nil (objects : List FailureObject) (within : List Nat) :
    IsQuiet objects [] within where
  quiet _ h := absurd h List.not_mem_nil
  causes _ h := absurd h List.not_mem_nil

/-- One more place in a region: one that holds no object, or one whose object is no cancellation. -/
theorem IsQuiet.cons (h : IsQuiet objects region within)
    (hplace : ∀ o, objects[place]? = some o →
      o.kind.isInterruption = false ∧ ∀ cause, o.cause = some cause → cause ∈ within) :
    IsQuiet objects (place :: region) within where
  quiet := List.forall_mem_cons.mpr ⟨fun o ho => (hplace o ho).1, h.quiet⟩
  causes := by
    refine List.forall_mem_cons.mpr ⟨?_, h.causes⟩
    rintro cause ⟨o, ho, hcause⟩
    exact (hplace o ho).2 cause hcause

theorem IsQuiet.mono {within' : List Nat} (h : IsQuiet objects region within)
    (hsub : within ⊆ within') : IsQuiet objects region within' where
  quiet := h.quiet
  causes place hplace cause hraised := hsub (h.causes place hplace cause hraised)

/-- Causes do not lead out of a region that holds all causes of its places. -/
theorem IsQuiet.mem_of_path (h : IsQuiet objects region region) (hplace : place ∈ region)
    {found : Nat} (hpath : Relation.ReflTransGen (RaisedFrom objects) place found) :
    found ∈ region := by
  induction hpath with
  | refl => exact hplace
  | tail _ hraised ih => exact h.causes _ ih _ hraised

/-- A walk that stops without an answer has stayed in a region that holds all causes of its places.
-/
theorem exists_isQuiet_of_not_meetsInterruption (hquiet : IsQuiet objects seen (place :: seen))
    (h : meetsInterruption objects seen place = false) :
    ∃ region, IsQuiet objects region region ∧ place ∈ region ∧ seen ⊆ region := by
  -- what has been seen is quiet, and the place where the walk stands is the only way out of it
  induction seen, place using meetsInterruption.induct objects with
  | case1 seen place hseen =>
    exact ⟨seen, hquiet.mono (List.cons_subset.mpr ⟨hseen, List.Subset.refl seen⟩), hseen,
      List.Subset.refl seen⟩
  | case2 seen place hnew hnone =>
    refine ⟨place :: seen, hquiet.cons fun o ho => ?_, List.mem_cons_self,
      List.subset_cons_self place seen⟩
    rw [hnone] at ho
    cases ho
  | case3 seen place hnew o ho hkind =>
    rw [meetsInterruption_of_isInterruption hnew ho hkind] at h
    cases h
  | case4 seen place hnew o ho hkind hcause =>
    refine ⟨place :: seen, hquiet.cons fun o' ho' => ?_, List.mem_cons_self,
      List.subset_cons_self place seen⟩
    obtain rfl := Option.some.inj (ho.symm.trans ho')
    refine ⟨Bool.eq_false_iff.mpr hkind, fun cause hcause' => ?_⟩
    rw [hcause] at hcause'
    cases hcause'
  | case5 seen place hnew o ho hkind next hcause ih =>
    rw [meetsInterruption_of_cause_eq_some hnew ho hkind hcause] at h
    have hstep : IsQuiet objects (place :: seen) (next :: place :: seen) := by
      refine (hquiet.mono (List.subset_cons_self next _)).cons fun o' ho' => ?_
      obtain rfl := Option.some.inj (ho.symm.trans ho')
      refine ⟨Bool.eq_false_iff.mpr hkind, fun cause hcause' => ?_⟩
      obtain rfl := Option.some.inj (hcause.symm.trans hcause')
      exact List.mem_cons_self
    obtain ⟨region, hregion, -, hsub⟩ := ih hstep h
    obtain ⟨hplace, hseen⟩ := List.cons_subset.mp hsub
    exact ⟨region, hregion, hplace, hseen⟩

end Walk

/-- A failure is a cancellation iff it goes back to an object of one of those classes. -/
theorem isCancellation_iff {f : Failure} :
    f.isCancellation = true ↔ ∃ o, f.GoesBackTo o ∧ o.kind.isInterruption = true := by
  constructor
  · intro h
    obtain ⟨place, o, hpath, ho, hkind⟩ := exists_of_meetsInterruption h
    exact ⟨o, ⟨place, hpath, ho⟩, hkind⟩
  · rintro ⟨o, ⟨place, hpath, ho⟩, hkind⟩
    cases hverdict : f.isCancellation with
    | true => rfl
    | false =>
      obtain ⟨region, hregion, hroot, -⟩ := exists_isQuiet_of_not_meetsInterruption
        (isQuiet_nil f.objects [f.root]) hverdict
      have hquiet := hregion.quiet place (hregion.mem_of_path hroot hpath) o ho
      rw [hkind] at hquiet
      cases hquiet

/-! ## What makes no difference -/

/-- What the walk looks at in an object: where its cause is, and whether it is a cancellation. -/
def outlook (o : FailureObject) : Option Nat × Bool := (o.cause, o.kind.isInterruption)

theorem getElem?_map_outlook {objects : List FailureObject} {place : Nat} {cause : Option Nat}
    {interrupts : Bool} :
    (objects.map outlook)[place]? = some (cause, interrupts) ↔
      ∃ o, objects[place]? = some o ∧ o.cause = cause ∧ o.kind.isInterruption = interrupts := by
  rw [List.getElem?_map, Option.map_eq_some_iff]
  simp only [outlook, Prod.mk.injEq]

/-- Two failures whose objects look the same to the walk are cancellations together. -/
theorem isCancellation_congr {f g : Failure} (hroot : f.root = g.root)
    (h : f.objects.map outlook = g.objects.map outlook) :
    f.isCancellation = g.isCancellation := by
  have hfinds (f g : Failure) (hroot : f.root = g.root)
      (h : f.objects.map outlook = g.objects.map outlook) (hf : f.isCancellation = true) :
      g.isCancellation = true := by
    obtain ⟨o, ⟨place, hpath, ho⟩, hkind⟩ := isCancellation_iff.mp hf
    have hlook := getElem?_map_outlook.mpr ⟨o, ho, rfl, hkind⟩
    rw [h] at hlook
    obtain ⟨o', ho', -, hkind'⟩ := getElem?_map_outlook.mp hlook
    have hraised (a b : Nat) : RaisedFrom f.objects a b → RaisedFrom g.objects a b := by
      rintro ⟨p, hp, hcause⟩
      have hstep := getElem?_map_outlook.mpr ⟨p, hp, hcause, rfl⟩
      rw [h] at hstep
      obtain ⟨p', hp', hcause', -⟩ := getElem?_map_outlook.mp hstep
      exact ⟨p', hp', hcause'⟩
    have hpath' := Relation.ReflTransGen.mono hraised _ _ hpath
    rw [hroot] at hpath'
    exact isCancellation_iff.mpr ⟨o', ⟨place, hpath', ho'⟩, hkind'⟩
  exact Bool.eq_iff_iff.mpr ⟨hfinds f g hroot h, hfinds g f hroot.symm h.symm⟩

/-! ## How long the walk takes -/

/-- The walk along causes, given up after a number of rounds. -/
def meetsInterruptionWithin (objects : List FailureObject) :
    Nat → List Nat → Nat → Option Bool
  | 0, _, _ => none
  | rounds + 1, seen, place =>
    if place ∈ seen then some false
    else
      match objects[place]? with
      | none => some false
      | some o =>
        if o.kind.isInterruption then some true
        else
          match o.cause with
          | none => some false
          | some next => meetsInterruptionWithin objects rounds (place :: seen) next

/-- The walk ends within as many rounds as there are places that it has not seen, and one more to
notice that it has seen the place where it stands. -/
theorem meetsInterruptionWithin_eq (objects : List FailureObject) (rounds : Nat)
    {seen : List Nat} {place : Nat} (h : unseen seen (List.range objects.length) < rounds) :
    meetsInterruptionWithin objects rounds seen place =
      some (meetsInterruption objects seen place) := by
  induction rounds generalizing seen place with
  | zero => omega
  | succ rounds ih =>
    rw [meetsInterruptionWithin, meetsInterruption_eq]
    split_ifs with hseen
    · rfl
    cases ho : objects[place]? with
    | none => rfl
    | some o =>
      cases hkind : o.kind.isInterruption with
      | true => simp only [hkind, if_true]
      | false =>
        cases hcause : o.cause with
        | none => simp only [hkind, hcause, Bool.false_eq_true, if_false]
        | some next =>
          simp only [hkind, hcause, Bool.false_eq_true, if_false]
          have hplace : place ∈ List.range objects.length :=
            List.mem_range.mpr (List.getElem?_eq_some_iff.mp ho).1
          have hless := unseen_cons_lt hplace hseen
          exact ih (by omega)

/-! ## All together -/

/-- The walk along causes ends after at most one round for every object and a last one, and a
failure is a cancellation iff it goes back to an object of the class of cancellations, of the class
of timeouts, or of one below them.  Contexts make no difference, and a cancellation of work in a
pool is like any other failure.  The failure of a node is a cancellation iff its cause is. -/
theorem isCancellation_decided_by_causes (f : Failure) :
    meetsInterruptionWithin f.objects (f.objects.length + 1) [] f.root = some f.isCancellation ∧
    (f.isCancellation = true ↔
      ∃ o, f.GoesBackTo o ∧ (o.kind.Extends .cancelled ∨ o.kind.Extends .timeout)) ∧
    (∀ contexts : Nat → Option Nat,
      isCancellation ⟨f.objects.mapIdx fun i o => { o with context := contexts i }, f.root⟩ =
        f.isCancellation) ∧
    isCancellation ⟨f.objects.map fun o =>
        if o.kind = .poolCancelled then { o with kind := .general } else o, f.root⟩ =
      f.isCancellation ∧
    ∀ nodeId, (ofNode nodeId f).isCancellation = f.isCancellation := by
  refine ⟨?ends, ?causes, fun contexts => ?contexts, ?pool, fun nodeId => ?node⟩
  case ends =>
    refine meetsInterruptionWithin_eq f.objects _ ?_
    have hall := List.length_filter_le (fun i => decide (i ∉ [])) (List.range f.objects.length)
    rw [List.length_range] at hall
    exact Nat.lt_succ_of_le hall
  case causes =>
    rw [isCancellation_iff]
    simp only [FailureClass.isInterruption_iff]
  case contexts =>
    refine isCancellation_congr rfl ?_
    refine List.ext_getElem? fun i => ?_
    rw [List.getElem?_map, List.getElem?_mapIdx, List.getElem?_map]
    cases f.objects[i]? <;> rfl
  case pool =>
    refine isCancellation_congr rfl ?_
    rw [List.map_map]
    refine List.map_congr_left fun o _ => ?_
    rw [Function.comp_apply]
    split_ifs with hpool
    · simp [outlook, hpool, FailureClass.isInterruption]
    · rfl
  case node => exact isCancellation_ofNode nodeId f

/-- A failure that was raised from one of a class below a cancellation. -/
example : isCancellation ⟨[{ kind := .value, cause := some 1 },
    { kind := .derived "Shutdown" .runtime .cancelled }], 0⟩ = true := by
  decide +kernel

/-- Two failures that were raised from each other, with a cancellation in the context of one. -/
example : isCancellation ⟨[{ kind := .runtime, cause := some 1 },
    { kind := .poolCancelled, cause := some 0, context := some 2 }, { kind := .cancelled }], 0⟩ =
      false := by
  decide +kernel

end Failure

end JobChain
