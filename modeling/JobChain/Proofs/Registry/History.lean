import JobChain.Proofs.Text.Normal
import JobChain.Registry.Builtin

/-!
# Registries and how they came about

A registry is filled by registrations, one after another.  However it came about, each of its
handlers serves the type that it offers to serve, and a type that is served once is served ever
after, though perhaps by another handler.

* `Registry.ofCalls`: the registry that some registrations fill.
* `Registry.IsIndexed`: every handler serves what it offers, with `isIndexed_ofCalls`.
* `Registry.isSome_resolve_append`: later registrations leave no type without a handler.
* `Registry.resolve_withBuiltins`: which handler serves which type among the three with a meaning.
-/

namespace JobChain

/-- A type in normal form stands for itself. -/
@[simp] theorem normalType_normal (s : String) :
    normalType (.string (Text.normal s)) = Text.normal s := by
  rw [normalType_string, Text.normal_normal]
  split_ifs with h
  · exact h.symm
  · rfl

namespace Registry

variable {α : Type} {r : Registry α} {type : Json}

/-- The registry that some registrations fill, one after another. -/
def ofCalls (calls : List (Option (Handler α))) : Registry α := calls.foldl register []

theorem ofCalls_append (calls later : List (Option (Handler α))) :
    ofCalls (calls ++ later) = later.foldl register (ofCalls calls) :=
  List.foldl_append

/-! ## What handlers offer -/

/-- Every handler of a registry serves the type that it offers to serve. -/
def IsIndexed (r : Registry α) : Prop :=
  ∀ type h, r.resolve type = some h → h.offer = normalType type

theorem isIndexed_nil : IsIndexed ([] : Registry α) := by
  intro type h hresolve
  cases hresolve

/-- A registration keeps a registry indexed. -/
theorem IsIndexed.register (hr : r.IsIndexed) (h? : Option (Handler α)) :
    (r.register h?).IsIndexed := by
  cases h? with
  | none => exact hr
  | some h =>
    intro type h' hresolve
    rw [resolve_register] at hresolve
    split_ifs at hresolve with hoffer
    · cases hresolve
      exact hoffer.2
    · exact hr type h' hresolve

theorem IsIndexed.foldl (hr : r.IsIndexed) (calls : List (Option (Handler α))) :
    IsIndexed (calls.foldl Registry.register r) := by
  induction calls generalizing r with
  | nil => exact hr
  | cons h? calls ih => exact ih (hr.register h?)

/-- However a registry came about, its handlers serve what they offer. -/
theorem isIndexed_ofCalls (calls : List (Option (Handler α))) : (ofCalls calls).IsIndexed :=
  isIndexed_nil.foldl calls

/-! ## Which types are served -/

/-- A registration leaves no type without a handler that had one. -/
theorem isSome_resolve_register (h : (r.resolve type).isSome = true) (h? : Option (Handler α)) :
    ((r.register h?).resolve type).isSome = true := by
  cases h? with
  | none => exact h
  | some h' =>
    rw [resolve_register]
    split_ifs
    · rfl
    · exact h

theorem isSome_resolve_foldl (h : (r.resolve type).isSome = true)
    (calls : List (Option (Handler α))) :
    (resolve (calls.foldl register r) type).isSome = true := by
  induction calls generalizing r with
  | nil => exact h
  | cons h? calls ih => exact ih (isSome_resolve_register h h?)

/-- A type that is served is served after any later registrations. -/
theorem isSome_resolve_append {calls : List (Option (Handler α))}
    (h : ((ofCalls calls).resolve type).isSome = true) (later : List (Option (Handler α))) :
    ((ofCalls (calls ++ later)).resolve type).isSome = true := by
  rw [ofCalls_append]
  exact isSome_resolve_foldl h later

/-- A type is supported iff it is that of a start or is served. -/
theorem supports_eq_true_iff :
    r.supports type = true ↔ normalType type = startType ∨ (r.resolve type).isSome = true := by
  simp [supports]

/-! ## The three handlers with a meaning -/

section Builtins

variable {σ : Type}

@[simp] theorem offer_textHandler (text : Option (TextEffect σ)) :
    (textHandler text).offer = "text_event" := by
  show normalType (.string "text_event") = "text_event"
  decide +kernel

@[simp] theorem offer_delayHandler (delay : Option (DelayEffect σ)) :
    (delayHandler delay).offer = "delay" := by
  show normalType (.string "delay") = "delay"
  decide +kernel

@[simp] theorem offer_conditionHandler (test : Option (ConditionEffect σ)) :
    (conditionHandler test).offer = "if_event" := by
  show normalType (.string "if_event") = "if_event"
  decide +kernel

/-- The registry of the three handlers serves their three types, and no others. -/
theorem resolve_withBuiltins (text : Option (TextEffect σ)) (delay : Option (DelayEffect σ))
    (type : Json) :
    (withBuiltins [] text delay).resolve type =
      if normalType type = "if_event" then some (conditionHandler (some evaluateEffect))
      else if normalType type = "delay" then some (delayHandler delay)
      else if normalType type = "text_event" then some (textHandler text)
      else none := by
  have hserved (s : String) (hs : s ≠ "" ∧ s ≠ startType) :
      (s ≠ "" ∧ s ≠ startType) ∧ s = normalType type ↔ normalType type = s := by
    rw [and_iff_right hs, eq_comm]
  rw [withBuiltins, resolve_register, resolve_register, resolve_register, offer_conditionHandler,
    offer_delayHandler, offer_textHandler, if_congr (hserved "if_event" (by decide)) rfl rfl,
    if_congr (hserved "delay" (by decide)) rfl rfl,
    if_congr (hserved "text_event" (by decide)) rfl rfl]
  rfl

theorem isSome_resolve_withBuiltins (text : Option (TextEffect σ)) (delay : Option (DelayEffect σ))
    (type : Json) :
    ((withBuiltins [] text delay).resolve type).isSome =
      decide (normalType type ∈ ["if_event", "delay", "text_event"]) := by
  rw [resolve_withBuiltins]
  generalize normalType type = s
  split_ifs with hcondition hdelay htext
  · simp [hcondition]
  · simp [hdelay]
  · simp [htext]
  · simp [hcondition, hdelay, htext]

end Builtins

end Registry

end JobChain
