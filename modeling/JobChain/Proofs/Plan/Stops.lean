import JobChain.Proofs.Plan.Remaining

/-!
# How compilations stop

A compilation that stops tells why.  The walk along edges that have been checked never asks for a
name that is missing, and whatever else stops a compilation is a refusal or passed on.  A payload
without a record is refused too, with one exception: bytes that are no text in their own encoding
end the compilation with the failure of the decoder.

* `isTold_of_planOf`: a compilation that stops is a refusal of its own or a failure of a callback.
* `Payload.IsUndecodable`: the exception, and `Payload.kind_of_load`, that it is the only one.
* `fails_as_validation_unless_undecodable`: what this says of all that reads payloads.
-/

namespace JobChain

/-- A compilation that stops has found a violation or no chain. -/
theorem isTold_of_planOf {callbacks : Callbacks} {stop : CompileStop} {w : Workflow}
    (h : planOf callbacks w = .error stop) : stop.IsTold callbacks := by
  rcases planOf_error_cases h with hchecks | rfl | rfl | ⟨id, rfl⟩
  · exact hchecks.isTold
  · rfl
  · rfl
  · rfl

/-! ## Payloads -/

/-- Whether a payload is a sequence of bytes that is no text in the encoding that its front gives
away. -/
def Payload.IsUndecodable {α : Type} (payload : Payload α) : Prop :=
  ∃ content error, payload = .bytes content ∧ Text.decodeDetected content = .error error

section Payloads

variable {α : Type} {subject : Subject α} {error : PayloadError}

theorem Subject.kind_of_ofValue {value : Json} (h : subject.ofValue value = .error error) :
    error.toFailure.kind = .validation := by
  unfold Subject.ofValue at h
  cases hread : subject.read value with
  | ok record => rw [hread] at h; cases h
  | error issues =>
    rw [hread] at h
    cases h
    rfl

theorem Subject.kind_of_ofRead {read : Except Json.ReadError Json}
    (h : subject.ofRead read = .error error) : error.toFailure.kind = .validation := by
  unfold Subject.ofRead at h
  split at h
  · cases h
    rfl
  · exact Subject.kind_of_ofValue h
  · cases h
    rfl

/-- A payload without a record is refused, unless it cannot be decoded. -/
theorem Payload.kind_of_load {payload : Payload α} (h : payload.load subject = .error error) :
    error.toFailure.kind = .validation ∨
      payload.IsUndecodable ∧ error.toFailure.kind = .decoding := by
  cases payload with
  | ready record => cases h
  | value json =>
    left
    cases json with
    | string s => exact Subject.kind_of_ofRead h
    | object members => exact Subject.kind_of_ofValue h
    | _ =>
      cases h
      rfl
  | bytes content =>
    cases hdecode : Text.decodeDetected content with
    | ok cs =>
      simp only [Payload.load, hdecode] at h
      exact .inl (Subject.kind_of_ofRead h)
    | error decodeError =>
      simp only [Payload.load, hdecode] at h
      cases h
      exact .inr ⟨⟨content, decodeError, rfl, hdecode⟩, rfl⟩

/-- Bytes that cannot be decoded end with the failure of the decoder. -/
theorem Payload.exists_load_of_isUndecodable {payload : Payload α} (h : payload.IsUndecodable) :
    ∃ error, payload.load subject = .error error ∧ error.toFailure.kind = .decoding := by
  obtain ⟨content, decodeError, rfl, hdecode⟩ := h
  exact ⟨.undecodable decodeError, by simp only [Payload.load, hdecode], rfl⟩

/-- A payload yields a record or is refused as invalid iff it can be decoded. -/
theorem Payload.load_fails_as_validation_iff {payload : Payload α} :
    (∀ error, payload.load subject = .error error → error.toFailure.kind = .validation) ↔
      ¬payload.IsUndecodable := by
  constructor
  · intro hall h
    obtain ⟨error, hload, hkind⟩ := Payload.exists_load_of_isUndecodable h
    rw [hall error hload] at hkind
    cases hkind
  · intro h error hload
    exact (Payload.kind_of_load hload).resolve_right fun hboth => h hboth.1

/-- The compilation stopped because an ordinary failure of the check of conditions did not tell its
text. -/
def CompileStop.IsSilenced (callbacks : Callbacks) (stop : CompileStop) : Prop :=
  ∃ failure silence, stop = .escaped silence ∧ callbacks.Raises failure ∧
    failure.said = .error silence

theorem Callbacks.TellsFailures.not_isSilenced {callbacks : Callbacks} {stop : CompileStop}
    (htells : callbacks.TellsFailures)
    (hordinary : ∀ failure, callbacks.Raises failure → failure.kind.isOrdinary = true) :
    ¬stop.IsSilenced callbacks := by
  rintro ⟨failure, silence, -, hraised, hsilent⟩
  obtain ⟨text, htext⟩ := htells failure hraised (hordinary failure hraised)
  cases hsilent.symm.trans htext

/-- The failure of a compilation that stops at its payload or later. -/
theorem kind_of_isTold {callbacks : Callbacks} {stop : CompileStop}
    (hordinary : ∀ failure, callbacks.Raises failure → failure.kind.isOrdinary = true)
    (h : stop.IsTold callbacks) :
    stop.toFailure.kind = .validation ∨ stop.IsSilenced callbacks := by
  cases stop with
  | refused reason =>
    have htold : reason.toFailure = .of .validation reason.message := h
    exact .inl ((congrArg Failure.kind htold).trans rfl)
  | missingNode id => exact h.elim
  | escaped failure =>
    have hout : callbacks.LetsOut failure := h
    cases hout with
    | raised hraised hkind =>
      rw [hordinary failure hraised] at hkind
      cases hkind
    | silent hraised _ hsilent => exact .inr ⟨_, failure, rfl, hraised, hsilent⟩

/-- With a check of conditions whose failures are ordinary, a compilation yields a plan or is
refused as invalid iff its payload can be decoded, if it has one.  It is left aside here that such a
failure may not tell its text. -/
theorem compilePayload_fails_as_validation_iff {callbacks : Callbacks}
    (hordinary : ∀ failure, callbacks.Raises failure → failure.kind.isOrdinary = true)
    {payload : Option (Payload Workflow)} :
    (∀ stop, (compilePayload callbacks payload {}).1 = .error stop →
        stop.toFailure.kind = .validation ∨ stop.IsSilenced callbacks) ↔
      ∀ input, payload = some input → ¬input.IsUndecodable := by
  cases payload with
  | none =>
    constructor
    · intro _ input hinput
      cases hinput
    · intro _ stop hstop
      cases hstop
      exact .inl rfl
  | some input =>
    have hinputs : (∀ other, some input = some other → ¬other.IsUndecodable) ↔
        ¬input.IsUndecodable := by
      simp
    rw [hinputs, ← Payload.load_fails_as_validation_iff]
    cases hload : input.load Workflow.subject with
    | ok w =>
      have hplan : (compilePayload callbacks (some input) {}).1 = planOf callbacks w := by
        rw [planOf, compilePayload, hload]
        rfl
      simp only [hplan, reduceCtorEq, false_implies, implies_true, iff_true]
      exact fun stop hstop => kind_of_isTold hordinary (isTold_of_planOf hstop)
    | error error =>
      have hrefused : (compilePayload callbacks (some input) {}).1 =
          .error (.refused (.payload error)) := by
        rw [compilePayload, hload]
        rfl
      simp only [hrefused, Except.error.injEq, forall_eq']
      refine or_iff_left ?_
      rintro ⟨_, _, hstop, -, -⟩
      cases hstop

end Payloads

/-- The readings of workflows and of jobs and the compilation fail with a failure of validation and
no other, except for bytes that cannot be decoded, and except for what comes up when a failure of
the check of conditions does not tell its text. -/
theorem fails_as_validation_unless_undecodable {callbacks : Callbacks}
    (hordinary : ∀ failure, callbacks.Raises failure → failure.kind.isOrdinary = true) :
    (∀ payload : Payload Workflow,
        (∀ error, payload.load Workflow.subject = .error error →
          error.toFailure.kind = .validation) ↔ ¬payload.IsUndecodable) ∧
      (∀ payload : Payload Job,
        (∀ error, payload.load Job.subject = .error error →
          error.toFailure.kind = .validation) ↔ ¬payload.IsUndecodable) ∧
      (∀ payload : Option (Payload Workflow),
        (∀ stop, (compilePayload callbacks payload {}).1 = .error stop →
          stop.toFailure.kind = .validation ∨ stop.IsSilenced callbacks) ↔
        ∀ input, payload = some input → ¬input.IsUndecodable) ∧
      (callbacks.TellsFailures → ∀ payload : Option (Payload Workflow),
        (∀ stop, (compilePayload callbacks payload {}).1 = .error stop →
          stop.toFailure.kind = .validation) ↔
        ∀ input, payload = some input → ¬input.IsUndecodable) := by
  refine ⟨fun _ => Payload.load_fails_as_validation_iff,
    fun _ => Payload.load_fails_as_validation_iff,
    fun _ => compilePayload_fails_as_validation_iff hordinary, fun htells payload => ?_⟩
  rw [← compilePayload_fails_as_validation_iff hordinary]
  exact forall_congr' fun stop => imp_congr_right fun _ =>
    (or_iff_left (htells.not_isSilenced hordinary)).symm

theorem fails_as_validation_strictCallbacks :
    (∀ failure, strictCallbacks.Raises failure → failure.kind.isOrdinary = true) ∧
      strictCallbacks.TellsFailures ∧
      ∀ stop, (compilePayload strictCallbacks (some (.value (.string "]"))) {}).1 = .error stop →
        stop.toFailure.kind = .validation := by
  have hraised (failure : Failure) (h : strictCallbacks.Raises failure) :
      ∃ text, failure = .of .condition text := by
    obtain ⟨validate, hvalidate, condition, hfailure⟩ := h
    cases hvalidate
    cases hfailure
    exact ⟨_, rfl⟩
  have hordinary (failure : Failure) (h : strictCallbacks.Raises failure) :
      failure.kind.isOrdinary = true := by
    obtain ⟨text, rfl⟩ := hraised failure h
    rfl
  have htells : strictCallbacks.TellsFailures := by
    intro failure h _
    obtain ⟨text, rfl⟩ := hraised failure h
    exact ⟨text, rfl⟩
  refine ⟨hordinary, htells,
    ((fails_as_validation_unless_undecodable hordinary).2.2.2 htells _).mpr ?_⟩
  rintro input hinput ⟨content, error, hbytes, -⟩
  rw [hbytes] at hinput
  cases hinput

/-- A single byte that begins no character ends a reading with the failure of the decoder. -/
theorem not_fails_as_validation_of_startByte :
    ¬∀ (payload : Payload Workflow) (error : PayloadError),
      payload.load Workflow.subject = .error error → error.toFailure.kind = .validation := by
  intro h
  have hkind := h (.bytes [0xff]) (.undecodable ⟨.utf8, 0xff, 0, 1, .startByte⟩) (by decide +kernel)
  cases hkind

end JobChain
