import JobChain.Proofs.Registry.History
import JobChain.Proofs.Table
import Mathlib.Data.List.Induction

/-!
# The last registration wins

A registry is filled by calls of all sorts: some offer no handler, some handlers offer no type, and
types come in any case and with blanks around them.  What the registry holds in the end can be told
from the calls alone.  A type is served by the handler of the last call that offers that type in
normal form, and the types in question are those that the calls offer, without the one that begins a
chain and without the empty one.

A registration adds one call at the end, so the step is from the calls without the last to all of
them: either the last call is the one that counts, or the ones before decide.

* `IsLastOffer`: a handler is the last that the calls offer for a type, with `isLastOffer_concat`.
* `resolve_ofCalls_eq_some_iff`: it is the one that serves the type.
* `mem_names_ofCalls`, `nodup_names_ofCalls`: the types that are served.
* `holdsLast_ofCalls`: a registry holds the last registration of every type.
-/

namespace JobChain

/-- A normal form stands for itself, also that of a value that counts as nothing. -/
@[simp] theorem normalType_normalType (type : Json) :
    normalType (.string (normalType type)) = normalType type := by
  rw [normalType.eq_def type]
  split
  · simp
  · exact normalType_normal _

/-- What a handler offers is in normal form. -/
theorem Handler.normalType_offer {α : Type} (h : Handler α) :
    normalType (.string h.offer) = h.offer :=
  normalType_normalType _

namespace Registry

variable {α : Type} {calls : List (Option (Handler α))} {call : Option (Handler α)}
  {type : String} {h : Handler α}

/-! ## The last offer -/

/-- A type in normal form that a handler can serve. -/
def IsServable (type : String) : Prop := type ≠ "" ∧ type ≠ startType

/-- The handler is the last that the calls offer for a type in normal form. -/
def IsLastOffer (calls : List (Option (Handler α))) (type : String) (h : Handler α) : Prop :=
  ∃ earlier later, calls = earlier ++ some h :: later ∧ h.offer = type ∧
    ∀ h', some h' ∈ later → h'.offer ≠ type

theorem IsLastOffer.mem (hlast : IsLastOffer calls type h) : some h ∈ calls := by
  obtain ⟨earlier, later, rfl, -, -⟩ := hlast
  exact List.mem_append_right _ List.mem_cons_self

theorem IsLastOffer.offer_eq (hlast : IsLastOffer calls type h) : h.offer = type := by
  obtain ⟨-, -, -, hoffer, -⟩ := hlast
  exact hoffer

/-- The last call is the one that counts if it offers the type, and the calls before it decide
otherwise. -/
theorem isLastOffer_concat :
    IsLastOffer (calls ++ [call]) type h ↔
      (call = some h ∧ h.offer = type) ∨
        (∀ h', call = some h' → h'.offer ≠ type) ∧ IsLastOffer calls type h := by
  constructor
  · rintro ⟨earlier, later, hcalls, hoffer, hlater⟩
    rcases List.eq_nil_or_concat later with rfl | ⟨front, last, rfl⟩
    · obtain ⟨-, hcall⟩ := List.append_inj' hcalls rfl
      exact .inl ⟨List.singleton_inj.mp hcall, hoffer⟩
    · rw [List.concat_eq_append, ← List.cons_append, ← List.append_assoc] at hcalls
      obtain ⟨hfront, hcall⟩ := List.append_inj' hcalls rfl
      obtain rfl := List.singleton_inj.mp hcall
      refine .inr ⟨fun h' hcall' => hlater h' ?_, earlier, front, hfront, hoffer, fun h' hh' =>
        hlater h' ?_⟩
      · rw [hcall', List.concat_eq_append]
        exact List.mem_append_right _ List.mem_cons_self
      · rw [List.concat_eq_append]
        exact List.mem_append_left _ hh'
  · rintro (⟨rfl, hoffer⟩ | ⟨hcall, earlier, later, rfl, hoffer, hlater⟩)
    · exact ⟨calls, [], rfl, hoffer, by simp⟩
    · refine ⟨earlier, later ++ [call], by simp, hoffer, fun h' hh' => ?_⟩
      rcases List.mem_append.mp hh' with hmem | hmem
      · exact hlater h' hmem
      · exact hcall h' (List.mem_singleton.mp hmem).symm

/-- There is a last offer iff there is one at all. -/
theorem exists_isLastOffer_iff :
    (∃ h : Handler α, IsLastOffer calls type h) ↔ ∃ h, some h ∈ calls ∧ h.offer = type := by
  constructor
  · rintro ⟨h, hlast⟩
    exact ⟨h, hlast.mem, hlast.offer_eq⟩
  · induction calls using List.reverseRecOn with
    | nil => simp
    | append_singleton calls call ih =>
      rintro ⟨h, hmem, hoffer⟩
      simp only [isLastOffer_concat]
      by_cases hcall : ∃ h', call = some h' ∧ h'.offer = type
      · obtain ⟨h', rfl, hoffer'⟩ := hcall
        exact ⟨h', .inl ⟨rfl, hoffer'⟩⟩
      · have hother (h' : Handler α) (hh' : call = some h') : h'.offer ≠ type := fun hoffer' =>
          hcall ⟨h', hh', hoffer'⟩
        have hbefore : some h ∈ calls := (List.mem_append.mp hmem).resolve_right fun hlast =>
          hother h (List.mem_singleton.mp hlast).symm hoffer
        obtain ⟨h', hlast⟩ := ih ⟨h, hbefore, hoffer⟩
        exact ⟨h', .inr ⟨hother, hlast⟩⟩

/-! ## What serves a type -/

theorem ofCalls_concat (calls : List (Option (Handler α))) (call : Option (Handler α)) :
    ofCalls (calls ++ [call]) = (ofCalls calls).register call :=
  ofCalls_append calls [call]

/-- A type is served by the handler that was offered for it last, if it can be served. -/
theorem resolve_ofCalls_eq_some_iff (type : Json) :
    (ofCalls calls).resolve type = some h ↔
      IsServable (normalType type) ∧ IsLastOffer calls (normalType type) h := by
  induction calls using List.reverseRecOn with
  | nil =>
    have hnone : ¬IsLastOffer ([] : List (Option (Handler α))) (normalType type) h := fun hlast =>
      List.not_mem_nil hlast.mem
    simp only [hnone, and_false, iff_false]
    exact fun hsome => by cases hsome
  | append_singleton calls call ih =>
    rw [ofCalls_concat, isLastOffer_concat]
    cases call with
    | none => simp [ih]
    | some h' =>
      rw [resolve_register]
      by_cases hoffer : h'.offer = normalType type
      · -- the last call is about this type: it counts, unless the type cannot be served
        by_cases hservable : IsServable (normalType type)
        · rw [if_pos ⟨by rwa [hoffer], hoffer⟩]
          simp only [Option.some.injEq, hservable, true_and]
          constructor
          · rintro rfl
            exact .inl ⟨rfl, hoffer⟩
          · rintro (⟨heq, -⟩ | ⟨hother, -⟩)
            · exact heq
            · exact absurd hoffer (hother h' rfl)
        · rw [if_neg fun hp => hservable (hoffer ▸ hp.1), ih]
          simp [hservable]
      · rw [if_neg fun hp => hoffer hp.2, ih]
        refine and_congr_right fun _ => ⟨fun hlast => .inr ⟨?_, hlast⟩, ?_⟩
        · rintro _ ⟨⟩
          exact hoffer
        · rintro (⟨heq, hoffer'⟩ | ⟨-, hlast⟩)
          · cases heq
            exact absurd hoffer' hoffer
          · exact hlast

/-! ## The types that are served -/

/-- A registration adds the offered type to those that are served, if it can be served. -/
theorem mem_names_register {r : Registry α} :
    type ∈ (r.register call).names ↔
      type ∈ r.names ∨ IsServable type ∧ ∃ h, call = some h ∧ h.offer = type := by
  cases call with
  | none => simp
  | some h =>
    by_cases hoffer : h.offer = "" ∨ h.offer = startType
    · have hnot : ¬(IsServable type ∧ ∃ h', some h = some h' ∧ h'.offer = type) := by
        rintro ⟨hservable, h', ⟨⟩, rfl⟩
        exact hoffer.elim hservable.1 hservable.2
      rw [register, if_pos hoffer, or_iff_left hnot]
    · rw [register, if_neg hoffer, Table.names_put]
      have hservable : IsServable h.offer := not_or.mp hoffer
      split_ifs with hmem
      · refine ⟨.inl, ?_⟩
        rintro (hold | ⟨-, _, ⟨⟩, rfl⟩)
        · exact hold
        · exact hmem
      · rw [List.mem_append, List.mem_singleton]
        refine or_congr_right ⟨?_, ?_⟩
        · rintro rfl
          exact ⟨hservable, h, rfl, rfl⟩
        · rintro ⟨-, _, ⟨⟩, rfl⟩
          rfl

/-- A registration repeats no type. -/
theorem nodup_names_register {r : Registry α} (hr : r.names.Nodup) :
    (r.register call).names.Nodup := by
  cases call with
  | none => exact hr
  | some h =>
    rw [register]
    split_ifs with hoffer
    · exact hr
    · rw [Table.names_put]
      split_ifs with hmem
      · exact hr
      · exact List.nodup_append.mpr ⟨hr, List.nodup_singleton _, fun a ha b hb hab =>
          hmem (List.mem_singleton.mp hb ▸ hab ▸ ha)⟩

/-- The types that are served are those that the calls offer and that can be served. -/
theorem mem_names_ofCalls :
    type ∈ (ofCalls calls).names ↔ IsServable type ∧ ∃ h, some h ∈ calls ∧ h.offer = type := by
  induction calls using List.reverseRecOn with
  | nil => simp [ofCalls, Table.names]
  | append_singleton calls call ih =>
    rw [ofCalls_concat, mem_names_register, ih, ← and_or_left]
    refine and_congr_right fun _ => ?_
    simp only [List.mem_append, List.mem_singleton, or_and_right, exists_or, eq_comm (a := call)]

theorem nodup_names_ofCalls (calls : List (Option (Handler α))) :
    (ofCalls calls).names.Nodup := by
  induction calls using List.reverseRecOn with
  | nil => exact List.nodup_nil
  | append_singleton calls call ih =>
    rw [ofCalls_concat]
    exact nodup_names_register ih

/-- Types that are not repeated are listed in strictly increasing order. -/
theorem pairwise_lt_types {r : Registry α} (hr : r.names.Nodup) : r.types.Pairwise (· < ·) := by
  have htrans (a b c : String) (hab : decide (a ≤ b) = true) (hbc : decide (b ≤ c) = true) :
      decide (a ≤ c) = true :=
    decide_eq_true (String.le_trans (of_decide_eq_true hab) (of_decide_eq_true hbc))
  have htotal (a b : String) : (decide (a ≤ b) || decide (b ≤ a)) = true := by
    rw [Bool.or_eq_true, decide_eq_true_iff, decide_eq_true_iff]
    exact String.le_total a b
  have hsorted : r.types.Pairwise fun a b => decide (a ≤ b) = true :=
    List.pairwise_mergeSort htrans htotal r.names
  have hnodup : r.types.Nodup := (List.mergeSort_perm r.names _).nodup_iff.mpr hr
  refine (hsorted.and hnodup).imp fun {a b} h => String.not_le.mp fun hba => ?_
  exact h.2 (String.le_antisymm (of_decide_eq_true h.1) hba)

/-! ## Registries and their calls -/

/-- A registry holds the last registration of every type: a type is served by the handler that was
offered for it last, and the types are listed in order. -/
structure HoldsLast (calls : List (Option (Handler α))) (r : Registry α) : Prop where
  resolve : ∀ type h, r.resolve type = some h ↔
    IsServable (normalType type) ∧ IsLastOffer calls (normalType type) h
  resolve_none : ∀ type, r.resolve type = none ↔
    ¬IsServable (normalType type) ∨ ∀ h, some h ∈ calls → h.offer ≠ normalType type
  supports : ∀ type, r.supports type = true ↔
    normalType type = "start" ∨ ∃ h, r.resolve type = some h
  sorted : r.types.Pairwise (· < ·)
  mem_types : ∀ type, type ∈ r.types ↔ IsServable type ∧ ∃ h, some h ∈ calls ∧ h.offer = type
  resolve_types : ∀ type ∈ r.types, ∃ h, r.resolve (.string type) = some h
  resolve_normal : ∀ type, r.resolve (.string (normalType type)) = r.resolve type
  supports_normal : ∀ type, r.supports (.string (normalType type)) = r.supports type

/-- However a registry came about, it holds the last registration of every type. -/
theorem holdsLast_ofCalls (calls : List (Option (Handler α))) : HoldsLast calls (ofCalls calls) := by
  have hmem (type : String) : type ∈ (ofCalls calls).types ↔
      IsServable type ∧ ∃ h, some h ∈ calls ∧ h.offer = type := by
    rw [types, List.mem_mergeSort, mem_names_ofCalls]
  constructor
  case resolve => exact fun type h => resolve_ofCalls_eq_some_iff type
  case resolve_none =>
    intro type
    rw [← Option.not_isSome_iff_eq_none, Option.isSome_iff_exists]
    simp only [resolve_ofCalls_eq_some_iff, exists_and_left, exists_isLastOffer_iff, not_and_or,
      not_exists, imp_iff_not_or, ne_eq]
  case supports =>
    intro type
    rw [supports_eq_true_iff, Option.isSome_iff_exists]
    rfl
  case sorted => exact pairwise_lt_types (nodup_names_ofCalls calls)
  case mem_types => exact hmem
  case resolve_types =>
    intro type htype
    obtain ⟨hservable, h, hcall, rfl⟩ := (hmem type).mp htype
    simp only [resolve_ofCalls_eq_some_iff, h.normalType_offer, exists_and_left,
      exists_isLastOffer_iff]
    exact ⟨hservable, h, hcall, rfl⟩
  case resolve_normal =>
    intro type
    rw [resolve, normalType_normalType, resolve]
  case supports_normal =>
    intro type
    rw [supports, resolve, normalType_normalType, supports, resolve]

end Registry

end JobChain
