import JobChain.Proofs.Plan.Questions
import JobChain.Proofs.Service.Soundness

/-!
# More types to support

Which types are supported decides only whether a workflow is accepted.  Nothing of a plan depends on
it: a node loses the fields that mean nothing for its type by the type alone, supported or not.  So
whoever supports more types accepts what was accepted before, and compiles it to the same plan.  A
registry supports more types with every registration, because a registration takes none away.

* `Callbacks.Widens`: callbacks that accept more types and check conditions alike.
* `Compiles.widen`, `compilePayload_of_widens`: they come to the same plan.
* `Service.widens_of_register`: registrations widen what a service accepts.
* `compilePayload_keeps_plan`: the three ways of supporting more, each with the plan it keeps.
-/

namespace JobChain

/-- Callbacks that accept every type that others accept, and check conditions as those do. -/
structure Callbacks.Widens (wide narrow : Callbacks) : Prop where
  accepts : ∀ type, narrow.Accepts type → wide.Accepts type
  validate : wide.validate = narrow.validate

section Widening

variable {wide narrow : Callbacks} {w : Workflow} {p : Plan} {calls : Calls}
  {payload : Option (Payload Workflow)}

theorem Node.IsSound.widen {n : Node} (h : n.IsSound narrow) (hwider : wide.Widens narrow) :
    n.IsSound wide where
  id_ne := h.id_ne
  accepted hstart := hwider.accepts n.type (h.accepted hstart)
  text_ne := h.text_ne
  delay_nonneg := h.delay_nonneg
  approved hkind validate hvalidate := h.approved hkind validate (hwider.validate ▸ hvalidate)

/-- What holds of a plan does not hang on the types that are accepted beside its own. -/
theorem Compiles.widen (h : Compiles narrow w p) (hwider : wide.Widens narrow) :
    Compiles wide w p :=
  { h with node_sound := fun n hn => (h.node_sound n hn).widen hwider }

/-- Wider callbacks come to the same plan, and have been asked about the same nodes. -/
theorem compilePayload_of_widens (h : compilePayload narrow payload {} = (.ok p, calls))
    (hwider : wide.Widens narrow) :
    compilePayload wide payload {} = (.ok p, ({} : Calls).about wide p.workflow.nodes) := by
  obtain ⟨input, w, rfl, hload, hp⟩ := exists_planOf_of_compilePayload (congrArg Prod.fst h)
  have hwide : planOf wide w = .ok p :=
    planOf_eq_ok_iff.mpr ((planOf_eq_ok_iff.mp hp).widen hwider)
  have hinput : compilePayload wide (some input) {} = compilePayload wide (some (.ready w)) {} := by
    simp only [compilePayload, hload]
    rfl
  rw [planOf, ← hinput] at hwide
  cases hrun : compilePayload wide (some input) {} with
  | mk result asked =>
    rw [hrun] at hwide
    obtain rfl : result = .ok p := hwide
    rw [calls_of_compilePayload hrun]

end Widening

/-! ## Services -/

namespace Service

variable {σ : Type}

/-- A service accepts no fewer types after more handlers have been registered. -/
theorem widens_of_register (service : Service σ) (later : List (Option (Handler (Action σ)))) :
    Callbacks.Widens
      (callbacks { service with registry := later.foldl Registry.register service.registry })
      service.callbacks where
  accepts type h := by
    refine Registry.supports_eq_true_iff.mpr ?_
    exact (Registry.supports_eq_true_iff.mp h).imp_right fun hserved =>
      Registry.isSome_resolve_foldl hserved later
  validate := rfl

end Service

/-- Supporting more types never changes a plan: not when one predicate is replaced by another that
holds wherever the first does, not when a predicate that supports the three kinds with a meaning is
given where there was none, and not when a service has registered more handlers.  The check of
conditions is asked the same as before, and so is the predicate that is replaced. -/
theorem compilePayload_keeps_plan {σ : Type} (payload : Option (Payload Workflow)) (plan : Plan)
    (validate : Option (String → Except Failure Unit)) :
    (∀ (p q : String → Bool) (calls : Calls), (∀ type, p type = true → q type = true) →
      compilePayload { supports := some p, validate := validate } payload {} = (.ok plan, calls) →
      compilePayload { supports := some q, validate := validate } payload {} = (.ok plan, calls)) ∧
    (∀ (q : String → Bool) (calls : Calls),
      q "text_event" = true → q "delay" = true → q "if_event" = true →
      compilePayload { validate := validate } payload {} = (.ok plan, calls) →
      ∃ types, compilePayload { supports := some q, validate := validate } payload {} =
        (.ok plan, { calls with supports := types })) ∧
    ∀ (service : Service σ) (later : List (Option (Handler (Action σ)))),
      service.plan payload = .ok plan →
      Service.plan { service with registry := later.foldl Registry.register service.registry }
        payload = .ok plan := by
  refine ⟨fun p q calls hsub h => ?predicates, fun q calls htext hdelay hcondition h => ?builtins,
    fun service later h => ?services⟩
  case predicates =>
    have hwider : Callbacks.Widens { supports := some q, validate := validate }
        { supports := some p, validate := validate } := ⟨hsub, rfl⟩
    rw [compilePayload_of_widens h hwider, calls_of_compilePayload h]
    rfl
  case builtins =>
    have hwider : Callbacks.Widens { supports := some q, validate := validate }
        { validate := validate } := by
      refine ⟨?_, rfl⟩
      rintro type (rfl | rfl | rfl)
      · exact htext
      · exact hdelay
      · exact hcondition
    refine ⟨Callbacks.typesOf { supports := some q, validate := validate } plan.workflow.nodes, ?_⟩
    rw [compilePayload_of_widens h hwider, calls_of_compilePayload h]
    rfl
  case services =>
    have hrun : compilePayload service.callbacks payload {} = (.ok plan, _) := Prod.ext h rfl
    exact congrArg Prod.fst (compilePayload_of_widens hrun (service.widens_of_register later))

namespace Service

/-- Registrations of a type of its own, of a type that is served already, and of none. -/
def laterCalls : List (Option (Handler (Action Unit))) :=
  [some { type? := some (.string "Webhook"), action := fun _ _ s => (.now (.value .null), s) },
    some (delayHandler none), none]

end Service

theorem compilePayload_keeps_plan_scrambledWorkflow :
    (∃ plan calls,
      compilePayload { supports := some (· ∈ ["delay", "text_event", "if_event"]) }
        (some (.ready scrambledWorkflow)) {} = (.ok plan, calls) ∧
      compilePayload { supports := some fun _ => true } (some (.ready scrambledWorkflow)) {} =
        (.ok plan, calls)) ∧
    (∃ plan calls types,
      compilePayload {} (some (.ready scrambledWorkflow)) {} = (.ok plan, calls) ∧
      compilePayload { supports := some fun _ => true } (some (.ready scrambledWorkflow)) {} =
        (.ok plan, { calls with supports := types })) ∧
    ∃ plan, Service.sampleService.plan (some (.ready scrambledWorkflow)) = .ok plan ∧
      Service.plan { Service.sampleService with
        registry := Service.laterCalls.foldl Registry.register Service.sampleService.registry }
        (some (.ready scrambledWorkflow)) = .ok plan := by
  have hplan (callbacks : Callbacks)
      (hok : (compilePayload callbacks (some (.ready scrambledWorkflow)) {}).1.toOption.isSome) :
      ∃ plan calls, compilePayload callbacks (some (.ready scrambledWorkflow)) {} =
        (.ok plan, calls) := by
    cases hrun : compilePayload callbacks (some (.ready scrambledWorkflow)) {} with
    | mk result calls =>
      rw [hrun] at hok
      cases result with
      | error stop => cases hok
      | ok plan => exact ⟨plan, calls, rfl⟩
  refine ⟨?predicates, ?builtins, ?services⟩
  case predicates =>
    obtain ⟨plan, calls, h⟩ := hplan
      { supports := some (· ∈ ["delay", "text_event", "if_event"]) } (by decide +kernel)
    have hkept := (@compilePayload_keeps_plan Unit _ plan none).1 _ _ calls (fun _ _ => rfl) h
    exact ⟨plan, calls, h, hkept⟩
  case builtins =>
    obtain ⟨plan, calls, h⟩ := hplan {} (by decide +kernel)
    obtain ⟨types, htypes⟩ := (@compilePayload_keeps_plan Unit _ plan none).2.1
      (fun _ => true) calls rfl rfl rfl h
    exact ⟨plan, calls, types, h, htypes⟩
  case services =>
    obtain ⟨plan, calls, h⟩ := hplan Service.sampleService.callbacks (by decide +kernel)
    have hservice : Service.sampleService.plan (some (.ready scrambledWorkflow)) = .ok plan := by
      rw [Service.plan, h]
    have hkept := (compilePayload_keeps_plan _ plan none).2.2 Service.sampleService
      Service.laterCalls hservice
    exact ⟨plan, hservice, hkept⟩

end JobChain
