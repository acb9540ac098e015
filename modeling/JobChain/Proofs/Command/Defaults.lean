import JobChain.Proofs.Command.Agreement
import JobChain.Proofs.Payload
import JobChain.Proofs.Service.Deciding

/-!
# What a job gets that names nothing

A run fills in what its job leaves empty: the channel of the settings, and a task type.  What is
blank but not empty it leaves as it is, whereas conditions trim before they look.  So they see the
channel of the settings for an empty channel only.  For a blank one they see the channel that is the
default without any settings, and for a blank task type they see nothing.

* `viewOf`: what the conditions of a run see, with `aspect_jobOfRun`.
* `ConditionsSee`: the conditions of all runs of a file for a job see these values.
* `conditionsSee_of_holds`: they see `viewOf`, and how far that is from `meantView`, in which blank
  counts as empty.
-/

namespace JobChain.Command

variable {w : Surroundings} {file content job : String} {j : Job}

/-! ## Views -/

/-- The values that the conditions of a run see. -/
def viewOf (w : Surroundings) (j : Job) : Aspect → String
  | .channel =>
    if j.dispatch.channel = "" then Text.lower (Text.trim w.settings.defaultChannel)
    else if Text.trim j.dispatch.channel = "" then "console"
    else Text.lower (Text.trim j.dispatch.channel)
  | .taskType => if j.taskType = "" then "workflow" else Text.lower (Text.trim j.taskType)
  | aspect => j.aspect aspect

/-- The values that they would see if what is blank were filled in as what is empty is. -/
def meantView (w : Surroundings) (j : Job) : Aspect → String
  | .channel =>
    if Text.trim j.dispatch.channel = "" then Text.lower (Text.trim w.settings.defaultChannel)
    else Text.lower (Text.trim j.dispatch.channel)
  | .taskType =>
    if Text.trim j.taskType = "" then "workflow" else Text.lower (Text.trim j.taskType)
  | aspect => j.aspect aspect

/-- A text of blanks. -/
def IsBlankOnly (text : String) : Prop := text ≠ "" ∧ Text.trim text = ""

theorem trim_empty : Text.trim "" = "" := by decide +kernel

theorem lower_empty : Text.lower "" = "" := Text.lower_eq_empty_iff.mpr rfl

/-- The job that a run executes has the aspects of the view. -/
theorem aspect_jobOfRun (hdefault : Text.trim w.settings.defaultChannel ≠ "") (j : Job)
    (workflow : Workflow) : (jobOfRun w j workflow).aspect = viewOf w j := by
  funext aspect
  cases aspect with
  | channel =>
    simp only [Job.aspect, Job.channel, jobOfRun, viewOf]
    by_cases hempty : j.dispatch.channel = ""
    · rw [if_pos hempty, if_pos hempty, if_neg hdefault]
    · rw [if_neg hempty, if_neg hempty]
      by_cases hblank : Text.trim j.dispatch.channel = ""
      · rw [if_pos hblank, if_pos hblank]
        decide +kernel
      · rw [if_neg hblank, if_neg hblank]
  | taskType =>
    simp only [Job.aspect, jobOfRun, viewOf]
    by_cases hempty : j.taskType = ""
    · rw [if_pos hempty, if_pos hempty]
      decide +kernel
    · rw [if_neg hempty, if_neg hempty]
  | _ => simp only [Job.aspect, jobOfRun, viewOf, apply_ite Dispatch.target, ite_self]

/-- For a channel the two views differ only if it is blank without being empty, and then they do
unless the channel of the settings is the default without settings. -/
theorem viewOf_channel_eq_iff :
    viewOf w j .channel = meantView w j .channel ↔
      (IsBlankOnly j.dispatch.channel →
        Text.lower (Text.trim w.settings.defaultChannel) = "console") := by
  unfold viewOf meantView IsBlankOnly
  dsimp only
  by_cases hempty : j.dispatch.channel = ""
  · simp [hempty, trim_empty]
  · by_cases hblank : Text.trim j.dispatch.channel = ""
    · simp [hempty, hblank, eq_comm]
    · simp [hempty, hblank]

/-- For a task type they differ iff it is blank without being empty. -/
theorem viewOf_taskType_eq_iff :
    viewOf w j .taskType = meantView w j .taskType ↔ ¬IsBlankOnly j.taskType := by
  unfold viewOf meantView IsBlankOnly
  dsimp only
  by_cases hempty : j.taskType = ""
  · simp [hempty, trim_empty]
  · by_cases hblank : Text.trim j.taskType = ""
    · simp [hempty, hblank, lower_empty]
    · simp [hempty, hblank]

theorem viewOf_eq_meantView_iff :
    viewOf w j = meantView w j ↔
      (IsBlankOnly j.dispatch.channel →
        Text.lower (Text.trim w.settings.defaultChannel) = "console") ∧
      ¬IsBlankOnly j.taskType := by
  rw [← viewOf_channel_eq_iff, ← viewOf_taskType_eq_iff]
  constructor
  · intro h
    exact ⟨congrFun h .channel, congrFun h .taskType⟩
  · rintro ⟨hchannel, htask⟩
    funext aspect
    cases aspect with
    | channel => exact hchannel
    | taskType => exact htask
    | _ => rfl

/-! ## Runs -/

/-- The conditions of all runs of a file with a text for a job see these values. -/
structure ConditionsSee (w : Surroundings) (file content job : String) (seen : Aspect → String) :
    Prop where
  /-- They are the aspects of the job that is executed, which carries the workflow of the text. -/
  executes (workflow : Workflow) (h : workflowIn content = .ok workflow) :
    ∃ j, j.workflow = some workflow ∧ j.aspect = seen ∧
      ∀ echoes s, traceOf w echoes file job s = execute w echoes j s
  /-- In every trace that is left, they decide which nodes after conditions are skipped. -/
  decides (plan : Plan)
    (h : (service w true).plan (some (.value (.string content))) = .ok plan) (echoes : Bool)
    (s : Logged Session) (r : RunResult) (hr : (traceOf w echoes file job s).1 = .ok r) :
    r.trace.IsDecidedBy seen plan.order

/-- An execution with a result is one of the service. -/
theorem exists_execute_of_ok {echoes : Bool} {s : Logged Session} {r : RunResult}
    (h : (execute w echoes j s).1 = .ok r) :
    ∃ t, (service w echoes).execute j s = (.ok r, t) := by
  rw [execute_apply] at h
  rcases hrun : (service w echoes).execute j s with ⟨f | r', t⟩
  · rw [hrun] at h
    rcases tell_error w f with ⟨text, htell⟩ | ⟨g, htell⟩ <;> rw [htell] at h
    · exact absurd h (giveUp_ne_ok text t r)
    · cases h
  · rw [hrun] at h
    cases h
    exact ⟨t, rfl⟩

/-- The conditions of a run see the view of its job.  That is what they are meant to see iff neither
channel nor task type is a text of blanks; a channel may be one if the settings name the channel
that is the default without them. -/
theorem conditionsSee_of_holds (hfile : w.Holds file content) (hjob : IsJobText job j)
    (hdefault : Text.trim w.settings.defaultChannel ≠ "") :
    ConditionsSee w file content job (viewOf w j) ∧
      (viewOf w j = meantView w j ↔
        (IsBlankOnly j.dispatch.channel →
          Text.lower (Text.trim w.settings.defaultChannel) = "console") ∧
        ¬IsBlankOnly j.taskType) := by
  refine ⟨⟨fun workflow h => ?_, fun plan hplan echoes s r hr => ?_⟩, viewOf_eq_meantView_iff⟩
  · exact ⟨jobOfRun w j workflow, rfl, aspect_jobOfRun hdefault j workflow,
      traceOf_of_workflowIn_ok hfile hjob h⟩
  · cases hload : workflowIn content with
    | error error =>
      rw [plan_of_not_load hload] at hplan
      cases hplan
    | ok workflow =>
      rw [plan_of_load hload, ← plan_service w echoes] at hplan
      rw [traceOf_of_workflowIn_ok hfile hjob hload] at hr
      obtain ⟨t, hrun⟩ := exists_execute_of_ok hr
      rw [← aspect_jobOfRun hdefault j workflow]
      rw [service_eq] at hplan hrun
      exact Service.isDecidedBy_of_execute hplan hrun

/-- A workflow that says something on one channel only. -/
def pickyWorkflow : Workflow where
  version := "v1"
  nodes := [{ id := "s", type := "start" },
    { id := "g", type := "if_event", ifCondition := "channel == web" },
    { id := "a", type := "text_event", text := "hi" }]
  edges := [{ id := "e1", source := "s", target := "g" },
    { id := "e2", source := "g", target := "a" }]

/-- The members of the workflow. -/
def pickyMembers : Table Json :=
  [("version", .string "v1"),
    ("nodes", .array [
      .object [("id", .string "s"), ("type", .string "start")],
      .object [("id", .string "g"), ("type", .string "if_event"),
        ("if_condition", .string "channel == web")],
      .object [("id", .string "a"), ("type", .string "text_event"), ("text", .string "hi")]]),
    ("edges", .array [
      .object [("id", .string "e1"), ("source", .string "s"), ("target", .string "g")],
      .object [("id", .string "e2"), ("source", .string "g"), ("target", .string "a")]])]

/-- The workflow as a text. -/
def pickyText : String := Json.write (.object pickyMembers)

/-- Surroundings in which every path leads to the text, and the channel of the settings is the one
that the workflow asks for. -/
def pickySurroundings : Surroundings where
  lookup _ := .file (Text.Utf8.encode pickyText.toList)
  settings := { defaultChannel := "web" }
  start := 0
  step := 0
  process := 1
  token := "a"

/-- A job whose channel is blank. -/
def blankJob : Job := { dispatch := { channel := " " } }

/-- The job as a text. -/
def blankJobText : String := Json.write (.object [("dispatch", .object [("channel", .string " ")])])

theorem holds_pickySurroundings : pickySurroundings.Holds "wf.json" pickyText := by
  refine ⟨_, pickyText.toList, rfl, ?_, ?_⟩
  · rw [Text.decodeStrict, Text.Utf8.decode, Text.Utf8.decodeFrom_encode]
  · have hreturns : '\r' ∉ pickyText.toList := by
      rw [pickyText, Json.write, String.toList_ofList]
      decide +kernel
    rw [String.ofList_toList, Text.withLineFeeds_of_not_mem hreturns]

theorem isJobText_blankJobText : IsJobText blankJobText blankJob := by
  have hne : blankJobText ≠ "" := by decide +kernel
  rw [IsJobText, jobText, if_neg hne, blankJobText, Payload.load_text (by decide)]
  rfl

theorem workflowIn_pickyText : workflowIn pickyText = .ok pickyWorkflow := by
  rw [workflowIn, pickyText, Payload.load_text (by decide)]
  decide +kernel

theorem trim_defaultChannel_pickySurroundings :
    Text.trim pickySurroundings.settings.defaultChannel ≠ "" := by decide +kernel

theorem conditionsSee_of_holds_blankJob :
    pickySurroundings.Holds "wf.json" pickyText ∧ IsJobText blankJobText blankJob ∧
      Text.trim pickySurroundings.settings.defaultChannel ≠ "" ∧
      ConditionsSee pickySurroundings "wf.json" pickyText blankJobText
        (viewOf pickySurroundings blankJob) ∧
      (viewOf pickySurroundings blankJob = meantView pickySurroundings blankJob ↔
        (IsBlankOnly blankJob.dispatch.channel →
          Text.lower (Text.trim pickySurroundings.settings.defaultChannel) = "console") ∧
        ¬IsBlankOnly blankJob.taskType) :=
  have hdefault := trim_defaultChannel_pickySurroundings
  ⟨holds_pickySurroundings, isJobText_blankJobText, hdefault,
    conditionsSee_of_holds holds_pickySurroundings isJobText_blankJobText hdefault⟩

theorem exists_ok_of_map_toOption {ε α β : Type} {x : Except ε α} {f : α → β} {b : β}
    (h : x.toOption.map f = some b) : ∃ a, x = .ok a ∧ f a = b := by
  cases x with
  | error e => cases h
  | ok a => exact ⟨a, rfl, Option.some.inj h⟩

theorem exists_plan_pickyText :
    ∃ plan, (service pickySurroundings true).plan (some (.value (.string pickyText))) = .ok plan ∧
      plan.order = pickyWorkflow.nodes.drop 1 := by
  have horder : ((service pickySurroundings true).plan (some (.ready pickyWorkflow))).toOption.map
      Plan.order = some (pickyWorkflow.nodes.drop 1) := by decide +kernel
  rw [plan_of_load workflowIn_pickyText]
  exact exists_ok_of_map_toOption horder

/-- The node after the condition is skipped. -/
theorem exists_trace_blankJob :
    ∃ r gate next, (traceOf pickySurroundings true "wf.json" blankJobText
        { state := { time := 0 } }).1 = .ok r ∧ r.trace.entries = [gate, next] ∧
      gate.status = .succeeded ∧ next.status = .skipped := by
  have htrace : (execute pickySurroundings true
      (jobOfRun pickySurroundings blankJob pickyWorkflow) { state := { time := 0 } }).1.toOption.map
        (fun r => r.trace.entries.map (·.status)) = some [.succeeded, .skipped] := by decide +kernel
  rw [traceOf_of_workflowIn_ok holds_pickySurroundings isJobText_blankJobText workflowIn_pickyText]
  obtain ⟨r, hr, hstatuses⟩ := exists_ok_of_map_toOption htrace
  obtain ⟨gate, rest, hentries, hgate, hrest⟩ := List.map_eq_cons_iff.mp hstatuses
  obtain ⟨next, rfl, hnext⟩ := List.map_eq_singleton_iff.mp hrest
  exact ⟨r, gate, next, hr, hentries, hgate, hnext⟩

/-- A blank channel is not filled in: the node after the condition is skipped, although the channel
of the settings is the one that the condition asks for. -/
theorem not_conditionsSee_meantView :
    ¬∀ (w : Surroundings) (file content job : String) (j : Job), w.Holds file content →
      IsJobText job j → Text.trim w.settings.defaultChannel ≠ "" →
        ConditionsSee w file content job (meantView w j) := by
  intro h
  have hsee := h _ _ _ _ _ holds_pickySurroundings isJobText_blankJobText
    trim_defaultChannel_pickySurroundings
  obtain ⟨plan, hplan, horder⟩ := exists_plan_pickyText
  obtain ⟨r, gate, next, hr, hentries, hgate, hnext⟩ := exists_trace_blankJob
  have hread : Condition.read "channel == web" = .ok ⟨.channel, .equal, "web"⟩ := by
    decide +kernel
  have hweb : (⟨.channel, .equal, "web"⟩ : Condition).compares
      (meantView pickySurroundings blankJob) = true := by decide +kernel
  have hdecided := hsee.decides plan hplan true _ r hr
  rw [horder, Trace.IsDecidedBy, hentries] at hdecided
  obtain ⟨-, hskips⟩ := hdecided 0 _ _ gate rfl rfl hread rfl (by rw [hgate]; decide)
  exact Bool.false_ne_true (((hskips next rfl).mp hnext).symm.trans hweb)

end JobChain.Command
