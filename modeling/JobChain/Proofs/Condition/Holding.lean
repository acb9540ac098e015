import JobChain.Condition.Reader
import JobChain.Proofs.Text.Normal

/-!
# Which conditions can hold

A condition is compared as it is written with an aspect of a job that has been brought into a normal
form.  So the condition can hold only if its value is in that form to begin with: trimmed, and for
two of the aspects in lower case as well.  A channel is never empty, because the default takes its
place.  That is all: normal forms are their own normal forms, so a job that says the value
everywhere has it as every aspect that can be that value.

* `Aspect.CanBe`: the values that an aspect can be, with `canBe_aspect`.
* `Job.saying`: a job that says one text everywhere, with `aspect_saying`.
* `Condition.holds_unequal`: the two comparisons are opposites.
* `Condition.exists_evaluate_iff_canBe`: which conditions can hold, and for which jobs their
  opposites do.
-/

namespace JobChain

/-! ## What aspects can be -/

/-- The values that an aspect can be for some job. -/
structure Aspect.CanBe (a : Aspect) (v : String) : Prop where
  trimmed : Text.trim v = v
  lower : a = .channel ∨ a = .taskType → Text.lower v = v
  nonempty : a = .channel → v ≠ ""

/-- Lowercasing keeps a text trimmed. -/
theorem Text.trim_lower {s : String} (h : trim s = s) : trim (lower s) = lower s := by
  have hnormal : normal s = lower s := by rw [normal, h]
  rw [← hnormal, trim_normal]

theorem Job.trim_channel (j : Job) : Text.trim j.channel = j.channel := by
  unfold Job.channel
  simp only
  split_ifs
  · decide +kernel
  · exact Text.trim_trim _

theorem Job.channel_ne (j : Job) : j.channel ≠ "" := by
  unfold Job.channel
  simp only
  split_ifs with h
  · decide
  · exact h

/-- Every aspect of a job is one of the values that it can be. -/
theorem Job.canBe_aspect (j : Job) (a : Aspect) : a.CanBe (j.aspect a) where
  trimmed := by
    cases a with
    | channel => exact Text.trim_lower j.trim_channel
    | taskType => exact Text.trim_normal j.taskType
    | _ => exact Text.trim_trim _
  lower := by
    rintro (rfl | rfl)
    · exact Text.lower_lower _
    · exact Text.lower_lower _
  nonempty := by
    rintro rfl
    exact Text.lower_eq_empty_iff.not.mpr j.channel_ne

/-- A job that says one text wherever a condition looks. -/
def Job.saying (v : String) : Job where
  id := v
  name := v
  taskType := v
  dispatch := { channel := v, target := { userId := v, sessionId := v } }

/-- Every aspect that can be a text is that text for the job that says it everywhere. -/
theorem Aspect.CanBe.aspect_saying {a : Aspect} {v : String} (h : a.CanBe v) :
    (Job.saying v).aspect a = v := by
  cases a with
  | channel =>
    have hchannel : (Job.saying v).channel = v := by
      show (if Text.trim v = "" then defaultChannel else Text.trim v) = v
      rw [h.trimmed, if_neg (h.nonempty rfl)]
    rw [Job.aspect, hchannel]
    exact h.lower (.inl rfl)
  | taskType =>
    show Text.lower (Text.trim v) = v
    rw [h.trimmed]
    exact h.lower (.inr rfl)
  | _ => exact h.trimmed

/-! ## Conditions -/

namespace Condition

variable {a : Aspect} {v raw raw' : String}

theorem holds_equal_iff (j : Job) :
    (⟨a, .equal, v⟩ : Condition).holds j = true ↔ j.aspect a = v := by
  simp [holds]

/-- The two comparisons are opposites. -/
theorem holds_unequal (j : Job) :
    (⟨a, .unequal, v⟩ : Condition).holds j = !(⟨a, .equal, v⟩ : Condition).holds j := rfl

/-- A condition holds for some job iff its value is one that its aspect can be. -/
theorem exists_holds_equal_iff :
    (∃ j, (⟨a, .equal, v⟩ : Condition).holds j = true) ↔ a.CanBe v := by
  simp only [holds_equal_iff]
  constructor
  · rintro ⟨j, rfl⟩
    exact j.canBe_aspect a
  · intro h
    exact ⟨Job.saying v, h.aspect_saying⟩

end Condition

/-- A condition that can be read comes to its value for every job. -/
theorem evaluate_of_read {raw : String} {c : Condition} (h : Condition.read raw = .ok c) (j : Job) :
    Condition.evaluate raw j = .ok (c.holds j) := by
  rw [Condition.evaluate, h]
  rfl

/-- A condition that asks for equality comes out true for some job iff its value is one that its
aspect can be.  One that asks for inequality has a value for every job, the opposite of what the
same condition with equality comes to. -/
theorem Condition.exists_evaluate_iff_canBe (a : Aspect) (v : String) :
    (∀ raw, Condition.read raw = .ok ⟨a, .equal, v⟩ →
      ((∃ j, Condition.evaluate raw j = .ok true) ↔ a.CanBe v)) ∧
    (∀ raw raw' j, Condition.read raw = .ok ⟨a, .equal, v⟩ →
      Condition.read raw' = .ok ⟨a, .unequal, v⟩ →
        ∃ b, Condition.evaluate raw j = .ok b ∧ Condition.evaluate raw' j = .ok !b) ∧
    ∀ j, (⟨a, .unequal, v⟩ : Condition).holds j = !(⟨a, .equal, v⟩ : Condition).holds j := by
  refine ⟨fun raw h => ?_, fun raw raw' j h h' => ?_, fun j => holds_unequal j⟩
  · simp only [evaluate_of_read h, Except.ok.injEq]
    exact exists_holds_equal_iff
  · exact ⟨_, evaluate_of_read h j, evaluate_of_read h' j⟩

/-- A channel in upper case, a value with blanks at its ends and an empty channel can be read and
hold for no job.  The same text that is no channel can be the name of a job. -/
theorem Condition.exists_evaluate_iff_canBe_unusedValues :
    (∀ raw ∈ ["channel == Slack", "job_name == ' Slack '", "channel == ''"],
      (∃ c, Condition.read raw = .ok c) ∧ ¬∃ j, Condition.evaluate raw j = .ok true) ∧
    (∃ j, Condition.evaluate "job_name == Slack" j = .ok true) ∧
    ∀ j, ∃ b, Condition.evaluate "channel == Slack" j = .ok b ∧
      Condition.evaluate "channel != Slack" j = .ok !b := by
  have hcase : Condition.read "channel == Slack" = .ok ⟨.channel, .equal, "Slack"⟩ := by
    decide +kernel
  have hopposite : Condition.read "channel != Slack" = .ok ⟨.channel, .unequal, "Slack"⟩ := by
    decide +kernel
  have hblank : Condition.read "job_name == ' Slack '" = .ok ⟨.jobName, .equal, " Slack "⟩ := by
    decide +kernel
  have hempty : Condition.read "channel == ''" = .ok ⟨.channel, .equal, ""⟩ := by decide +kernel
  have hname : Condition.read "job_name == Slack" = .ok ⟨.jobName, .equal, "Slack"⟩ := by
    decide +kernel
  simp only [List.forall_mem_cons, List.not_mem_nil, false_implies, implies_true, and_true]
  refine ⟨⟨⟨⟨_, hcase⟩, ?_⟩, ⟨⟨_, hblank⟩, ?_⟩, ⟨_, hempty⟩, ?_⟩, ?_, fun j => ?_⟩
  · rw [(exists_evaluate_iff_canBe .channel "Slack").1 _ hcase]
    intro h
    have hlower : Text.lower "Slack" ≠ "Slack" := by decide +kernel
    exact hlower (h.lower (.inl rfl))
  · rw [(exists_evaluate_iff_canBe .jobName " Slack ").1 _ hblank]
    intro h
    have htrim : Text.trim " Slack " ≠ " Slack " := by decide +kernel
    exact htrim h.trimmed
  · rw [(exists_evaluate_iff_canBe .channel "").1 _ hempty]
    intro h
    exact h.nonempty rfl rfl
  · rw [(exists_evaluate_iff_canBe .jobName "Slack").1 _ hname]
    refine ⟨by decide +kernel, ?_, fun h => by cases h⟩
    rintro (h | h) <;> cases h
  · exact (exists_evaluate_iff_canBe .channel "Slack").2.1 _ _ j hcase hopposite

end JobChain
