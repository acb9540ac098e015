import JobChain.Json.Display
import JobChain.Plan.Normal
import JobChain.Table

/-!
# Registries

A registry knows which handler serves which type of nodes.  Types are compared in normal form, and
the last handler that was registered for a type serves it.  The type that begins a chain is always
supported and never served, and so is no type at all.

* `Registry.register`, `Registry.resolve`, `Registry.supports`: the operations.
* `Registry.types`: the types that are served, in order.
* `resolve_register`: what a registration changes.
-/

namespace JobChain

/-- A handler: the type that it offers to serve, if any, and what it does. -/
structure Handler (α : Type) where
  type? : Option Json
  action : α

/-- Whether a handler names a type, of whatever kind. -/
def Handler.isTyped {α : Type} (h : Handler α) : Bool := h.type?.isSome

/-- A type in normal form.  Values that count as nothing are no type. -/
def normalType (type : Json) : String :=
  if type.isEmpty then "" else Text.normal type.display

@[simp] theorem normalType_string (s : String) :
    normalType (.string s) = if s = "" then "" else Text.normal s := by
  simp [normalType, Json.isEmpty, Json.display]

/-- The type in normal form that a handler offers to serve, empty if it names none. -/
def Handler.offer {α : Type} (h : Handler α) : String := normalType (h.type?.getD (.string ""))

/-- A registry: handlers by type in normal form. -/
abbrev Registry (α : Type) := Table (Handler α)

namespace Registry

variable {α : Type}

/-- The registry with one more handler, if there is one and it names a type that can be served. -/
def register (r : Registry α) : Option (Handler α) → Registry α
  | none => r
  | some h => if h.offer = "" ∨ h.offer = startType then r else r.put h.offer h

/-- The handler that serves a type. -/
def resolve (r : Registry α) (type : Json) : Option (Handler α) := r.get? (normalType type)

/-- Whether a type is supported. -/
def supports (r : Registry α) (type : Json) : Bool :=
  normalType type == startType || (r.resolve type).isSome

/-- The types that are served, in the order of their characters. -/
def types (r : Registry α) : List String := r.names.mergeSort fun a b => decide (a ≤ b)

@[simp] theorem register_none (r : Registry α) : r.register none = r := rfl

/-- A registration changes what serves the offered type, if that can be served, and nothing else. -/
theorem resolve_register (r : Registry α) (h : Handler α) (type : Json) :
    (r.register (some h)).resolve type =
      if (h.offer ≠ "" ∧ h.offer ≠ startType) ∧ h.offer = normalType type then some h
      else r.resolve type := by
  by_cases hs : h.offer = "" ∨ h.offer = startType
  · have hn : ¬(h.offer ≠ "" ∧ h.offer ≠ startType) := fun hp => hs.elim hp.1 hp.2
    rw [register, if_pos hs, if_neg fun hp => hn hp.1]
  · have hp : h.offer ≠ "" ∧ h.offer ≠ startType := not_or.1 hs
    simp only [register, or_false, if_false, resolve, Table.get?_put, hp, ne_eq, not_false_eq_true,
      and_self, true_and]

end Registry

end JobChain
