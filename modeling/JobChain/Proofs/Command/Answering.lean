import JobChain.Proofs.Command.Agreement

/-!
# Commands that answer

A command that is given a file and a job should end with an answer, whatever is in them: with the
code zero, or with the code one after it has told what is wrong or has shown a trace with a failed
node.  The texts of the file and of the job can be wrong in many ways, in their JSON, in their
fields, as a chain, or when they are run, and for all of these there is an answer.  For two faults
there is none.  A file whose bytes are no text ends both commands with the failure of the decoder,
and a run id that the console cannot show as it is ends a run that shows its trace as a table with
the failure of the console; nobody handles either.

* `Report.IsAnswer`: what an answer is.
* `traceOf_ends`: how a run ends up to its trace.
* `Invocation.IsUndisturbed`: the console, the waits, the clock and the escapes in the texts do not
  disturb a command.
* `Invocation.IsUntitled`: a run that has a trace but cannot show the id of the run.
* `isAnswer_iff_of_lookup`: the commands answer iff neither of the two faults is there.
-/

namespace JobChain.Command

variable {w : Surroundings} {file content job : String} {bytes : List UInt8} {s : Logged Session}

/-! ## Answers -/

namespace Report

/-- The report tells of an error, in a line of the program or as a complaint about a file. -/
def TellsError (report : Report) (w : Surroundings) : Prop :=
  (∃ text, report.complaint = "Error: " ++ text ++ "\n") ∨
    ∃ reason, shownLine w (refusalLine w reason) ∈ report.effects ∨
      shownLine w (invalidLine w reason) ∈ report.effects

/-- The report has a trace in which a node failed, written as JSON or shown as a table. -/
def HasFailedTrace (report : Report) (w : Surroundings) : Prop :=
  ∃ r, HasFailed r ∧ (.wrote (Json.writeIndented r.trace.payload ++ "\n") ∈ report.effects ∨
    .showed (traceTable w r) ∈ report.effects)

/-- The command has answered: no failure was left unhandled, and the code is zero or it is one and
the report says why. -/
structure IsAnswer (report : Report) (w : Surroundings) : Prop where
  handled : report.failure = none
  told : report.exitCode = 0 ∨
    report.exitCode = 1 ∧ (report.TellsError w ∨ report.HasFailedTrace w)

end Report

section Answers

variable {effects : List Effect} {t : Logged Session} {r : RunResult}

theorem isAnswer_ended_zero (effects : List Effect) (t : Logged Session) :
    (ended 0 effects t).IsAnswer w :=
  ⟨rfl, .inl rfl⟩

theorem isAnswer_ended_of_refusalLine {reason : String}
    (h : shownLine w (refusalLine w reason) ∈ effects) : (ended 1 effects t).IsAnswer w :=
  ⟨rfl, .inr ⟨rfl, .inl (.inr ⟨reason, .inl (List.mem_append_right _ h)⟩)⟩⟩

theorem isAnswer_ended_of_invalidLine {reason : String}
    (h : shownLine w (invalidLine w reason) ∈ effects) : (ended 1 effects t).IsAnswer w :=
  ⟨rfl, .inr ⟨rfl, .inl (.inr ⟨reason, .inr (List.mem_append_right _ h)⟩)⟩⟩

/-- A report with a trace is an answer, if its code is that of the trace. -/
theorem isAnswer_ended_of_trace
    (h : .wrote (Json.writeIndented r.trace.payload ++ "\n") ∈ effects ∨
      .showed (traceTable w r) ∈ effects) :
    (ended (if HasFailed r then 1 else 0) effects t).IsAnswer w := by
  by_cases hfailed : HasFailed r
  · rw [if_pos hfailed]
    exact ⟨rfl, .inr ⟨rfl, .inr ⟨r, hfailed,
      h.imp (List.mem_append_right _) (List.mem_append_right _)⟩⟩⟩
  · rw [if_neg hfailed]
    exact isAnswer_ended_zero effects t

end Answers

/-! ## Files with a text -/

/-- The bytes are those of a text. -/
def IsText (bytes : List UInt8) : Prop := ∃ chars, Text.decodeStrict bytes = .ok chars

theorem exists_holds_of_isText (hfile : w.lookup (cleanPath file) = .file bytes)
    (htext : IsText bytes) : ∃ content, w.Holds file content := by
  obtain ⟨chars, hchars⟩ := htext
  exact ⟨_, bytes, chars, hfile, hchars, rfl⟩

/-- A file has one text only. -/
theorem Surroundings.Holds.unique {content' : String} (h : w.Holds file content)
    (h' : w.Holds file content') : content = content' := by
  obtain ⟨bytes, chars, hlookup, hdecode, rfl⟩ := h
  obtain ⟨bytes', chars', hlookup', hdecode', rfl⟩ := h'
  cases hlookup.symm.trans hlookup'
  cases hdecode.symm.trans hdecode'
  rfl

/-- The text of a file has a plan, or it is refused. -/
theorem plan_or_refused (w : Surroundings) (content : String) :
    (∃ plan, (service w true).plan (some (.value (.string content))) = .ok plan) ∨
      ∃ reason,
        (service w true).plan (some (.value (.string content))) = .error (.refused reason) := by
  cases hplan : (service w true).plan (some (.value (.string content))) with
  | ok plan => exact .inl ⟨plan, rfl⟩
  | error stop =>
    refine .inr ?_
    cases hload : workflowIn content with
    | error error =>
      rw [plan_of_not_load hload true] at hplan
      cases hplan
      exact ⟨_, rfl⟩
    | ok workflow =>
      rw [plan_of_load hload true] at hplan
      obtain ⟨reason, rfl⟩ := exists_refused_of_plan hplan
      exact ⟨reason, rfl⟩

/-- Validating a file with a text answers. -/
theorem isAnswer_validate (honours : w.console.Honours) (hfile : w.Holds file content)
    (s : Logged Session) : (reportOn (validate w file) s).IsAnswer w := by
  rcases plan_or_refused w content with ⟨plan, hplan⟩ | ⟨reason, hplan⟩
  · rw [reportOn_of_ok (validate_of_plan honours hfile hplan s)]
    exact isAnswer_ended_zero _ _
  · rw [reportOn_of_status (validate_of_refused honours hfile hplan s)]
    exact isAnswer_ended_of_invalidLine List.mem_cons_self

theorem traceOf_of_not_isJobText {workflow : Workflow} {error : PayloadError}
    (hfile : w.Holds file content) (h : workflowIn content = .ok workflow)
    (hjob : (Payload.value (.string (jobText job))).load Job.subject = .error error)
    (echoes : Bool) (s : Logged Session) :
    traceOf w echoes file job s = (giveUp w error.message : Commanding RunResult) s := by
  rw [traceOf, Act.bind_of_ok (readPayload_of_holds hfile s), loadText_of_ok h, Act.pure_bind,
    loadText_of_error hjob, giveUp_bind]

/-- A run of a file with a text gives up with a reason, or it leaves a trace of a plan whose types
can be shown, if waits are not broken off and the clock can tell the time. -/
theorem traceOf_ends (honours : w.console.Honours) (hwaits : w.IsUninterrupted)
    (hfile : w.Holds file content) (htime : w.KeepsTimeFor content s.state) (echoes : Bool)
    (job : String) :
    (∃ reason t, traceOf w echoes file job s = (giveUp w reason : Commanding RunResult) t) ∨
      ∃ plan r t, traceOf w echoes file job s = (.ok r, t) ∧ Traces w plan r ∧
        ∀ n ∈ plan.order, '[' ∉ n.type.toList := by
  cases hload : workflowIn content with
  | error error =>
    exact .inl ⟨_, s, traceOf_of_workflowIn_error hfile hload echoes s⟩
  | ok workflow =>
    cases hjob : (Payload.value (.string (jobText job))).load Job.subject with
    | error error =>
      exact .inl ⟨_, s, traceOf_of_not_isJobText hfile hload hjob echoes s⟩
    | ok j =>
      rw [traceOf_of_workflowIn_ok hfile hjob hload]
      have hplans : (service w echoes).plan ((jobOfRun w j workflow).workflow.map .ready) =
          (service w true).plan (some (.value (.string content))) := by
        rw [plan_of_load hload true, plan_service w echoes]
        rfl
      rcases plan_or_refused w content with ⟨plan, hplan⟩ | ⟨reason, hplan⟩
      · obtain ⟨r, t, hexecute, hr⟩ :=
          exists_execute_of_keepsTime honours hwaits (hplans.trans hplan) (htime plan hplan)
        exact .inr ⟨plan, r, t, hexecute, hr, notMem_type_of_plan hplan⟩
      · exact .inl ⟨_, _, execute_of_refused (hplans.trans hplan) s⟩

section Runs

variable (honours : w.console.Honours) (hwaits : w.IsUninterrupted) (hfile : w.Holds file content)
  (htime : w.KeepsTimeFor content s.state)

include honours hwaits hfile htime

/-- Running a file with a text answers, for every text of a job, unless there is a trace to be shown
as a table whose title cannot be shown. -/
theorem isAnswer_run {asJson : Bool}
    (htitle : ¬(asJson = false ∧ ¬w.console.Shows (traceTitle w.runId) ∧
      ∃ r, (traceOf w true file job s).1 = .ok r)) :
    (reportOn (run w file job asJson) s).IsAnswer w := by
  rcases traceOf_ends honours hwaits hfile htime (!asJson) job with ⟨reason, t, htrace⟩ |
    ⟨plan, r, t, htrace, hr, htypes⟩
  · rw [giveUp_of_honours honours] at htrace
    rw [reportOn_of_status (run_of_traceOf_error asJson htrace)]
    exact isAnswer_ended_of_refusalLine (List.mem_singleton_self _)
  · cases asJson with
    | true =>
      rw [hr.reportOn_json htrace]
      exact isAnswer_ended_of_trace (.inl (List.mem_singleton_self _))
    | false =>
      have hshows : w.console.Shows (traceTitle w.runId) := by
        by_contra hnot
        exact htitle ⟨rfl, hnot, r, congrArg Prod.fst htrace⟩
      rw [hr.reportOn_table honours htypes htrace hshows]
      exact isAnswer_ended_of_trace (.inr List.mem_cons_self)

/-- If there is such a trace, then the run ends with the failure of the console. -/
theorem exists_reportOn_of_not_shows (htitle : ¬w.console.Shows (traceTitle w.runId))
    {r : RunResult} (hr : (traceOf w true file job s).1 = .ok r) :
    ∃ f t, w.console.render (traceTitle w.runId) = .error f ∧
      reportOn (run w file job false) s = { ended 1 [] t with failure := some f } := by
  obtain ⟨f, hf⟩ := Console.exists_render_eq_error htitle
  rcases traceOf_ends honours hwaits hfile htime true job with ⟨reason, t, htrace⟩ |
    ⟨plan, r, t, htrace, htraces, -⟩
  · rw [htrace] at hr
    exact absurd hr (giveUp_ne_ok reason t r)
  · exact ⟨f, t, hf, htraces.reportOn_untitled htrace hf⟩

end Runs

/-! ## Files without a text -/

/-- The failure of the decoder. -/
def undecodable (error : Text.DecodeError) : Failure := .of .decoding error.message

section Undecodable

variable {error : Text.DecodeError}

theorem readPayload_of_undecodable (hfile : w.lookup (cleanPath file) = .file bytes)
    (herror : Text.decodeStrict bytes = .error error) (s : Logged Session) :
    readPayload w file s = (.error (.unhandled (undecodable error)), s) := by
  unfold readPayload
  simp only [hfile, herror]
  rfl

theorem validate_of_undecodable (hfile : w.lookup (cleanPath file) = .file bytes)
    (herror : Text.decodeStrict bytes = .error error) (s : Logged Session) :
    validate w file s = (.error (.unhandled (undecodable error)), s) :=
  Act.bind_of_error (readPayload_of_undecodable hfile herror s) _

theorem traceOf_of_undecodable (hfile : w.lookup (cleanPath file) = .file bytes)
    (herror : Text.decodeStrict bytes = .error error) (echoes : Bool) (job : String)
    (s : Logged Session) :
    traceOf w echoes file job s = (.error (.unhandled (undecodable error)), s) :=
  Act.bind_of_error (readPayload_of_undecodable hfile herror s) _

end Undecodable

/-! ## Command lines -/

/-- The session that a command line begins with. -/
def Surroundings.session (w : Surroundings) : Logged Session := { state := { time := w.start } }

/-- The file that a command is about. -/
def Invocation.file? : Invocation → Option String
  | validate file => some file
  | run file _ _ => some file
  | _ => none

/-- The text of a job that a command is given. -/
def Invocation.job? : Invocation → Option String
  | run _ job _ => some job
  | _ => none

/-- Nothing around a command about a file disturbs it: the console honours its markup, waits are not
broken off, the clock can tell the time, and the escapes in the texts of the file and of the job
stand for characters. -/
structure Invocation.IsUndisturbed (invocation : Invocation) (w : Surroundings) : Prop where
  honours : w.console.Honours
  waits : w.IsUninterrupted
  keepsTime (file content : String) (hfile : invocation.file? = some file)
    (h : w.Holds file content) : w.KeepsTimeFor content w.session.state
  pairs_content (file content : String) (hfile : invocation.file? = some file)
    (h : w.Holds file content) : Json.PairsSurrogates content
  pairs_job (job : String) (hjob : invocation.job? = some job) : Json.PairsSurrogates job

/-- The command is a run that has a trace to show as a table, and the console cannot show the title
of the table. -/
def Invocation.IsUntitled (w : Surroundings) : Invocation → Prop
  | run file job false =>
    ¬w.console.Shows (traceTitle w.runId) ∧ ∃ r, (traceOf w true file job w.session).1 = .ok r
  | _ => False

/-- Whether a command has answered does not depend on the log. -/
theorem isAnswer_performCommand_iff {c : Subcommand} {arguments : List String}
    {invocation : Invocation} (hread : c.read w.lookup arguments = .ok invocation)
    (verbose : Bool) :
    (performCommand w verbose c arguments).IsAnswer w ↔
      (reportOn (invocation.act w c) w.session).IsAnswer w := by
  rw [performCommand_of_read hread]
  exact ⟨fun h => ⟨h.handled, h.told⟩, fun h => ⟨h.handled, h.told⟩⟩

/-- A command about a file ends with the failure of the decoder if the file has no text. -/
theorem reportOn_act_of_undecodable {invocation : Invocation} {error : Text.DecodeError}
    (hfile : w.lookup (cleanPath file) = .file bytes)
    (hinvocation : invocation.file? = some file)
    (herror : Text.decodeStrict bytes = .error error) (c : Subcommand) (s : Logged Session) :
    reportOn (invocation.act w c) s =
      { ended 1 [] s with failure := some (undecodable error) } := by
  cases invocation with
  | validate file' =>
    cases hinvocation
    exact reportOn_of_unhandled (validate_of_undecodable hfile herror s)
  | run file' job asJson =>
    cases hinvocation
    have htrace := traceOf_of_undecodable hfile herror (!asJson) job s
    exact reportOn_of_unhandled (run_of_traceOf_error asJson htrace)
  | _ => cases hinvocation

/-- A command about a file with a text answers unless it is an untitled run, which ends with the
failure of the console. -/
theorem isAnswer_act {invocation : Invocation} (hfile : w.Holds file content)
    (hinvocation : invocation.file? = some file) (hundisturbed : invocation.IsUndisturbed w)
    (c : Subcommand) :
    (¬invocation.IsUntitled w → (reportOn (invocation.act w c) w.session).IsAnswer w) ∧
      (invocation.IsUntitled w → ∃ f t, w.console.render (traceTitle w.runId) = .error f ∧
        reportOn (invocation.act w c) w.session = { ended 1 [] t with failure := some f }) := by
  have htime := hundisturbed.keepsTime file content hinvocation hfile
  have honours := hundisturbed.honours
  cases invocation with
  | validate file' =>
    cases hinvocation
    exact ⟨fun _ => isAnswer_validate honours hfile _, fun h => h.elim⟩
  | run file' job asJson =>
    cases hinvocation
    refine ⟨fun htitle => isAnswer_run honours hundisturbed.waits hfile htime ?_, fun htitle => ?_⟩
    · rintro ⟨rfl, h⟩
      exact htitle h
    · cases asJson with
      | true => exact htitle.elim
      | false =>
        obtain ⟨htitle, r, hr⟩ := htitle
        exact exists_reportOn_of_not_shows honours hundisturbed.waits hfile htime htitle hr
  | _ => cases hinvocation

/-- The file of an untitled run has a text. -/
theorem isText_of_isUntitled {invocation : Invocation}
    (hfile : w.lookup (cleanPath file) = .file bytes)
    (hinvocation : invocation.file? = some file) (h : invocation.IsUntitled w) : IsText bytes := by
  cases hdecode : Text.decodeStrict bytes with
  | ok chars => exact ⟨chars, hdecode⟩
  | error error =>
    cases invocation with
    | run file' job asJson =>
      cases hinvocation
      cases asJson with
      | true => exact h.elim
      | false =>
        obtain ⟨-, r, hr⟩ := h
        rw [traceOf_of_undecodable hfile hdecode] at hr
        cases hr
    | _ => exact h.elim

/-- A command about a file answers, whatever is in the file and in the job, iff the bytes of the
file are a text and the command is no untitled run.  If they are not, then the failure of the
decoder is left unhandled, and nothing has been printed; in an untitled run, the failure of the
console is. -/
theorem isAnswer_iff_of_lookup (hfile : w.lookup (cleanPath file) = .file bytes) {c : Subcommand}
    {arguments : List String} {invocation : Invocation}
    (hread : c.read w.lookup arguments = .ok invocation)
    (hinvocation : invocation.file? = some file) (hundisturbed : invocation.IsUndisturbed w)
    (verbose : Bool) :
    ((performCommand w verbose c arguments).IsAnswer w ↔
      IsText bytes ∧ ¬invocation.IsUntitled w) ∧
      (∀ error, Text.decodeStrict bytes = .error error →
        (performCommand w verbose c arguments).failure = some (undecodable error) ∧
        (performCommand w verbose c arguments).exitCode = 1 ∧
        (performCommand w verbose c arguments).complaint = "" ∧
        (performCommand w verbose c arguments).effects = []) ∧
      (invocation.IsUntitled w →
        ∃ f, w.console.render (traceTitle w.runId) = .error f ∧
          (performCommand w verbose c arguments).failure = some f ∧
          (performCommand w verbose c arguments).exitCode = 1) := by
  refine ⟨?_, fun error herror => ?_, fun huntitled => ?_⟩
  · rw [isAnswer_performCommand_iff hread]
    constructor
    · intro hanswer
      cases hdecode : Text.decodeStrict bytes with
      | ok chars =>
        refine ⟨⟨chars, hdecode⟩, fun huntitled => ?_⟩
        obtain ⟨content, hholds⟩ := exists_holds_of_isText hfile ⟨chars, hdecode⟩
        obtain ⟨f, t, -, hreport⟩ := (isAnswer_act hholds hinvocation hundisturbed c).2 huntitled
        rw [hreport] at hanswer
        cases hanswer.handled
      | error error =>
        rw [reportOn_act_of_undecodable hfile hinvocation hdecode] at hanswer
        cases hanswer.handled
    · rintro ⟨htext, htitled⟩
      obtain ⟨content, hholds⟩ := exists_holds_of_isText hfile htext
      exact (isAnswer_act hholds hinvocation hundisturbed c).1 htitled
  · rw [performCommand_of_read hread]
    have hreport := reportOn_act_of_undecodable hfile hinvocation herror c w.session
    unfold Surroundings.session at hreport
    dsimp only
    rw [hreport]
    exact ⟨rfl, rfl, rfl, rfl⟩
  · have htext := isText_of_isUntitled hfile hinvocation huntitled
    obtain ⟨content, hholds⟩ := exists_holds_of_isText hfile htext
    obtain ⟨f, t, hf, hreport⟩ := (isAnswer_act hholds hinvocation hundisturbed c).2 huntitled
    rw [performCommand_of_read hread]
    unfold Surroundings.session at hreport
    dsimp only
    rw [hreport]
    exact ⟨f, hf, rfl, rfl⟩

/-- Where neither the clock moves nor waits take time, nothing lasts. -/
theorem stretch_eq_zero (hstep : w.step = 0) (hwaits : w.waitsTakeTime = false) (plan : Plan) :
    w.stretch plan = 0 := by
  have hnodes (n : Node) : w.nodeTime n = 0 := by
    simp [Surroundings.nodeTime, Surroundings.waitTime, hwaits]
  have htick : w.step.natAbs = 0 := by rw [hstep, Int.natAbs_zero]
  rw [Surroundings.stretch, lengthOf_eq_zero htick hnodes, htick]

/-- A clock that does not move can tell the time if it can tell the present one. -/
theorem keepsTimeFor_of_step_eq_zero (hstep : w.step = 0) (hwaits : w.waitsTakeTime = false)
    {time : Int} (htime : ∃ text, Clock.timeText time = .ok text) {s : Session}
    (hs : s.time = time) (content : String) : w.KeepsTimeFor content s := by
  intro plan _ later hback hforth
  rw [stretch_eq_zero hstep hwaits] at hback hforth
  obtain rfl : later = time := by omega
  exact htime

theorem exists_timeText_zero : ∃ text, Clock.timeText 0 = .ok text := by
  cases htime : Clock.timeText 0 with
  | ok text => exact ⟨text, rfl⟩
  | error error =>
    have hsome : (Clock.timeText 0).toOption.isSome = true := by decide +kernel
    rw [htime] at hsome
    cases hsome

theorem isUninterrupted_of_waitFailure_eq_none (h : w.waitFailure = none) : w.IsUninterrupted := by
  intro f hf
  cases h.symm.trans hf

theorem pairsSurrogates_restingText : Json.PairsSurrogates restingText := by decide +kernel

theorem pairsSurrogates_empty : Json.PairsSurrogates "" := by decide +kernel

/-- Nothing disturbs the run of the resting workflow. -/
theorem isUndisturbed_restingSurroundings :
    (Invocation.run "wf.json" "" false).IsUndisturbed (restingSurroundings "run") where
  honours := Console.honours_plain
  waits := isUninterrupted_of_waitFailure_eq_none rfl
  keepsTime _ content _ _ := keepsTimeFor_of_step_eq_zero rfl rfl exists_timeText_zero rfl content
  pairs_content file _ _ hholds :=
    hholds.unique (holds_restingSurroundings "run" file) ▸ pairsSurrogates_restingText
  pairs_job _ hjob := Option.some.inj hjob ▸ pairsSurrogates_empty

theorem isAnswer_iff_of_lookup_restingSurroundings :
    Subcommand.run.read (restingSurroundings "run").lookup ["wf.json"] =
        .ok (.run "wf.json" "" false) ∧
      (Invocation.run "wf.json" "" false).IsUndisturbed (restingSurroundings "run") ∧
      ((performCommand (restingSurroundings "run") false .run ["wf.json"]).IsAnswer
          (restingSurroundings "run") ↔
        IsText (Text.Utf8.encode restingText.toList) ∧
          ¬(Invocation.run "wf.json" "" false).IsUntitled (restingSurroundings "run")) := by
  have hread : Subcommand.run.read (restingSurroundings "run").lookup ["wf.json"] =
      .ok (.run "wf.json" "" false) := by decide +kernel
  exact ⟨hread, isUndisturbed_restingSurroundings,
    (isAnswer_iff_of_lookup rfl hread rfl isUndisturbed_restingSurroundings false).1⟩

/-- Surroundings in which every path leads to a byte that begins no character. -/
def startByteSurroundings : Surroundings where
  lookup _ := .file [0xFF]
  settings := {}
  start := 0
  step := 0
  process := 1
  token := "a"

theorem exists_decodeStrict_startByte : ∃ error, Text.decodeStrict [0xFF] = .error error := by
  cases hdecode : Text.decodeStrict [0xFF] with
  | error error => exact ⟨error, rfl⟩
  | ok chars =>
    have hnone : (Text.decodeStrict [0xFF]).toOption = none := by decide +kernel
    rw [hdecode] at hnone
    cases hnone

/-- Such a file has no text, so that nothing disturbs its validation. -/
theorem isUndisturbed_startByteSurroundings :
    (Invocation.validate "wf.json").IsUndisturbed startByteSurroundings := by
  have hnone (file content : String) : ¬startByteSurroundings.Holds file content := by
    rintro ⟨bytes, chars, hlookup, hdecode, -⟩
    obtain ⟨error, herror⟩ := exists_decodeStrict_startByte
    cases hlookup
    cases hdecode.symm.trans herror
  constructor
  case honours => exact Console.honours_plain
  case waits => exact isUninterrupted_of_waitFailure_eq_none rfl
  case keepsTime => exact fun file content _ hholds => absurd hholds (hnone file content)
  case pairs_content => exact fun file content _ hholds => absurd hholds (hnone file content)
  case pairs_job =>
    intro job hjob
    cases hjob

/-- A file of which the first byte begins no character is not answered. -/
theorem not_isAnswer_of_startByte :
    ¬∀ (w : Surroundings) (file : String) (bytes : List UInt8) (c : Subcommand)
      (arguments : List String) (invocation : Invocation),
      w.lookup (cleanPath file) = .file bytes → c.read w.lookup arguments = .ok invocation →
        invocation.file? = some file → invocation.IsUndisturbed w →
          ∀ verbose, (performCommand w verbose c arguments).IsAnswer w := by
  intro h
  have hread : Subcommand.validate.read startByteSurroundings.lookup ["wf.json"] =
      .ok (.validate "wf.json") := by decide +kernel
  have hanswer := h startByteSurroundings "wf.json" [0xFF] .validate ["wf.json"] _ rfl hread rfl
    isUndisturbed_startByteSurroundings false
  rw [isAnswer_performCommand_iff hread] at hanswer
  obtain ⟨error, herror⟩ := exists_decodeStrict_startByte
  rw [reportOn_act_of_undecodable rfl rfl herror] at hanswer
  cases hanswer.handled

end JobChain.Command
