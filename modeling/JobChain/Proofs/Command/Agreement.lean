import JobChain.Proofs.Command.Timing
import JobChain.Proofs.Json.Surrogates

/-!
# Validating and running agree

Validating the workflow of a file and running it go through the same compilation: validation
compiles the text of the file, a run compiles the workflow that it has read from that text and put
into its job, whatever workflow the job came with.  So one refuses a file iff the other does, and in
the same words; and a trace lists the nodes of the order that validation shows.

The two formats of a run execute it alike.  They also end alike, except for one text that is printed
as it is: the title of the table holds the id of the run.  If the console cannot show the title, say
because the prefix of run ids closes a tag that is not open, then the table cannot be shown, and the
run ends with the failure of the console.

* `Surroundings.Holds`, `IsJobText`: the files and texts that a command can read, and
  `Surroundings.Reads`, such a file and such a text whose escapes stand for characters.
* `traceOf`, `conclude`: a run up to its trace, and what follows; `run_eq` puts them together.
* `reportOn`: the report on a command; command lines report the same, by `performCommand_of_read`.
* `Agrees`: what agreement means, for one file, one job and one session.
* `agrees_of_reads`: agreement.
-/

namespace JobChain.Command

open Act (Ends)

variable {w : Surroundings} {file content job : String} {j : Job} {s : Logged Session}

/-! ## Files and jobs -/

/-- A path leads to a file with a text. -/
def Surroundings.Holds (w : Surroundings) (file content : String) : Prop :=
  ∃ bytes chars, w.lookup (cleanPath file) = .file bytes ∧
    Text.decodeStrict bytes = .ok chars ∧ content = Text.withLineFeeds (String.ofList chars)

theorem readPayload_of_holds (h : w.Holds file content) (s : Logged Session) :
    readPayload w file s = (.ok content, s) := by
  obtain ⟨bytes, chars, hlookup, hdecode, rfl⟩ := h
  unfold readPayload
  simp only [hlookup, hdecode]
  rfl

/-- The text of a job, where no text stands for an empty object. -/
def jobText (job : String) : String := if job = "" then "\x7b\x7d" else job

/-- A text on the command line is that of a job. -/
def IsJobText (job : String) (j : Job) : Prop :=
  (Payload.value (.string (jobText job))).load Job.subject = .ok j

/-- A file with a text and a text of a job, the escapes of which stand for characters: a half of a
pair of surrogates is none, and no console prints it. -/
structure Surroundings.Reads (w : Surroundings) (file content job : String) (j : Job) : Prop where
  holds : w.Holds file content
  isJobText : IsJobText job j
  pairs_content : Json.PairsSurrogates content
  pairs_job : Json.PairsSurrogates job

/-- The workflow in a text, or why there is none. -/
def workflowIn (content : String) : Except PayloadError Workflow :=
  (Payload.value (.string content)).load Workflow.subject

theorem loadText_of_ok {α : Type} {subject : Subject α} {text : String} {record : α}
    (h : (Payload.value (.string text)).load subject = .ok record) :
    loadText w subject text = pure record := by
  rw [loadText, h]

theorem loadText_of_error {α : Type} {subject : Subject α} {text : String} {error : PayloadError}
    (h : (Payload.value (.string text)).load subject = .error error) :
    loadText w subject text = giveUp w error.message := by
  rw [loadText, h]

/-! ## Runs in two parts -/

/-- A run up to its trace. -/
def traceOf (w : Surroundings) (echoes : Bool) (file job : String) : Commanding RunResult := do
  let content ← readPayload w file
  let workflow ← loadText w Workflow.subject content
  let j ← loadText w Job.subject (jobText job)
  execute w echoes (jobOfRun w j workflow)

/-- What a run does with its trace. -/
def conclude (w : Surroundings) (asJson : Bool) (r : RunResult) : Commanding Unit := do
  if asJson then
    onSession (Session.write (Json.writeIndented r.trace.payload ++ "\n"))
  else
    showResult w r
  if r.trace.hadFailures then
    Act.fail (.status 1)

theorem run_eq (w : Surroundings) (file job : String) (asJson : Bool) :
    run w file job asJson = traceOf w (!asJson) file job >>= conclude w asJson := by
  unfold run traceOf conclude jobText
  simp only [Act.bind_assoc]

theorem traceOf_of_workflowIn_error {error : PayloadError} (hfile : w.Holds file content)
    (h : workflowIn content = .error error) (echoes : Bool) (s : Logged Session) :
    traceOf w echoes file job s = (giveUp w error.message : Commanding RunResult) s := by
  rw [traceOf, Act.bind_of_ok (readPayload_of_holds hfile s), loadText_of_error h, giveUp_bind]

theorem traceOf_of_workflowIn_ok {workflow : Workflow} (hfile : w.Holds file content)
    (hjob : IsJobText job j) (h : workflowIn content = .ok workflow) (echoes : Bool)
    (s : Logged Session) :
    traceOf w echoes file job s = execute w echoes (jobOfRun w j workflow) s := by
  rw [traceOf, Act.bind_of_ok (readPayload_of_holds hfile s), loadText_of_ok h, Act.pure_bind,
    loadText_of_ok hjob, Act.pure_bind]

/-! ## Validations -/

/-- The table of the order of a plan. -/
def orderTable (w : Surroundings) (plan : Plan) : Printed :=
  .table (some (w.console.shown "Execution order"))
    ["#", "Node", "Type", "Title", "Continue on error"]
    ((orderRows w 1 plan.order).map (List.map w.console.shown))

theorem notMem_type_of_plan {echoes : Bool} {payload : Option (Payload Workflow)} {plan : Plan}
    (h : (service w echoes).plan payload = .ok plan) :
    ∀ n ∈ plan.order, '[' ∉ n.type.toList := by
  intro n hn
  rw [service_eq] at h
  rcases Service.type_of_mem_order h hn with htype | htype | htype <;> rw [htype] <;> decide

section Validations

variable (honours : w.console.Honours) (hfile : w.Holds file content)

include honours hfile

theorem validate_of_plan {plan : Plan}
    (h : (service w true).plan (some (.value (.string content))) = .ok plan) (s : Logged Session) :
    validate w file s = (.ok (), withEffects [shownLine w (validLine w plan.startId),
      .showed (orderTable w plan), shownLine w (typesLine w)] s) := by
  have htitle : w.console.Shows "Execution order" := honours.unmarked _ (by decide)
  have hrows := shows_of_mem_orderRows honours (notMem_type_of_plan h) 1
  have htable (t : Logged Session) :
      onSession (Session.printTable w.console (some "Execution order")
        ["#", "Node", "Type", "Title", "Continue on error"] (orderRows w 1 plan.order)) t =
        (.ok (), withEffects [.showed (orderTable w plan)] t) :=
    onSession_apply (Session.printTable_of_shows htitle hrows _ t.state)
  have hvalid := say_of_shows (shows_validLine honours plan.startId) s
  unfold validLine at hvalid
  unfold validate
  rw [Act.bind_of_ok (readPayload_of_holds hfile s), h]
  dsimp only
  rw [Act.bind_of_ok hvalid, Act.bind_of_ok (htable _), say_of_shows (shows_typesLine honours),
    withEffects_withEffects, withEffects_withEffects]
  rfl

theorem validate_of_refused {reason : Refusal}
    (h : (service w true).plan (some (.value (.string content))) = .error (.refused reason))
    (s : Logged Session) :
    validate w file s = (.error (.status 1),
      withEffects [shownLine w (invalidLine w reason.message), shownLine w (typesLine w)] s) := by
  have hinvalid := say_of_shows (shows_invalidLine honours reason.message) s
  unfold invalidLine at hinvalid
  unfold validate
  rw [Act.bind_of_ok (readPayload_of_holds hfile s), h]
  dsimp only
  rw [Act.bind_of_ok hinvalid, Act.bind_of_ok (say_of_shows (shows_typesLine honours) _),
    withEffects_withEffects]
  rfl

end Validations

/-! ## Showing traces -/

/-- The title of the table of a run. -/
def traceTitle (runId : String) : String := "Run " ++ runId

/-- The table of a trace. -/
def traceTable (w : Surroundings) (r : RunResult) : Printed :=
  .table (some (w.console.shown (traceTitle r.trace.runId)))
    ["Node", "Type", "Status", "Started", "Finished", "Error"]
    ((r.trace.entries.map (entryRow w)).map (List.map w.console.shown))

/-- What a run shows of its trace: a table, and the first failure if there is one. -/
def traceEffects (w : Surroundings) (r : RunResult) : List Effect :=
  .showed (traceTable w r) ::
    r.error.toList.map fun f => shownLine w (failureLine w f.toFailure.text)

/-- How a run with a trace ends. -/
def exitOf (r : RunResult) : Except Exit Unit :=
  if r.trace.hadFailures then .error (.status 1) else .ok ()

/-- Entries of nodes have the ids and the types of these nodes. -/
theorem map_entries_of_areOf {nodes : List Node} {entries : List Entry}
    (h : List.Forall₂ Entry.IsOf nodes entries) :
    entries.map (fun e => (e.nodeId, e.nodeType)) = nodes.map fun n => (n.id, n.type) := by
  induction h with
  | nil => rfl
  | cons hof _ ih => rw [List.map_cons, List.map_cons, hof.nodeId, hof.nodeType, ih]

/-- The rows of a trace of a plan can be shown, if the types of the plan can. -/
theorem Traces.shows_rows (honours : w.console.Honours) {plan : Plan} {r : RunResult}
    (h : Traces w plan r) (htypes : ∀ n ∈ plan.order, '[' ∉ n.type.toList) :
    ∀ row ∈ r.trace.entries.map (entryRow w), ∀ text ∈ row, w.console.Shows text := by
  intro row hrow
  obtain ⟨e, he, rfl⟩ := List.mem_map.mp hrow
  have hmem : (e.nodeId, e.nodeType) ∈ plan.order.map fun n => (n.id, n.type) := by
    rw [← map_entries_of_areOf h.entries]
    exact List.mem_map_of_mem he
  obtain ⟨n, hn, hpair⟩ := List.mem_map.mp hmem
  have htype : n.type = e.nodeType := congrArg Prod.snd hpair
  obtain ⟨started, hstarted⟩ := (h.times e he).startedAt
  refine shows_of_mem_entryRow honours (htype ▸ htypes n hn) (notMem_timeText hstarted)
    fun text htext => ?_
  obtain ⟨finished, hfinished⟩ := (h.times e he).finishedAt text htext
  exact notMem_timeText hfinished

theorem showResult_of_shows (honours : w.console.Honours) {r : RunResult}
    (htitle : w.console.Shows (traceTitle r.trace.runId))
    (hrows : ∀ row ∈ r.trace.entries.map (entryRow w), ∀ text ∈ row, w.console.Shows text)
    (s : Logged Session) : showResult w r s = (.ok (), withEffects (traceEffects w r) s) := by
  have htable := onSession_apply (Session.printTable_of_shows htitle hrows
    ["Node", "Type", "Status", "Started", "Finished", "Error"] s.state)
  unfold traceTitle at htable
  unfold showResult traceEffects
  rw [Act.bind_of_ok htable]
  cases herror : r.error with
  | none => rfl
  | some f =>
    show say w (failureLine w f.toFailure.text) _ = _
    rw [say_of_shows (shows_failureLine honours f.toFailure.text)]
    simp [withEffects, traceTable, traceTitle]

theorem showResult_of_error {r : RunResult} {f : Failure}
    (htitle : w.console.render (traceTitle r.trace.runId) = .error f) (s : Logged Session) :
    showResult w r s = (.error (.unhandled f), s) := by
  have htable := onSession_of_error (Session.printTable_of_error htitle
    ["Node", "Type", "Status", "Started", "Finished", "Error"] (r.trace.entries.map (entryRow w))
    s.state)
  unfold traceTitle at htable
  unfold showResult
  rw [Act.bind_of_error htable]

theorem fail_unless_hadFailures (r : RunResult) (s : Logged Session) :
    (if r.trace.hadFailures then Act.fail (.status 1) else pure () : Commanding Unit) s =
      (exitOf r, s) := by
  unfold exitOf
  cases r.trace.hadFailures <;> rfl

theorem conclude_json (w : Surroundings) (r : RunResult) (s : Logged Session) :
    conclude w true r s =
      (exitOf r, withEffects [.wrote (Json.writeIndented r.trace.payload ++ "\n")] s) :=
  (Act.bind_of_ok rfl _).trans (fail_unless_hadFailures r _)

theorem conclude_table_of_shows (honours : w.console.Honours) {r : RunResult}
    (htitle : w.console.Shows (traceTitle r.trace.runId))
    (hrows : ∀ row ∈ r.trace.entries.map (entryRow w), ∀ text ∈ row, w.console.Shows text)
    (s : Logged Session) : conclude w false r s = (exitOf r, withEffects (traceEffects w r) s) :=
  (Act.bind_of_ok (showResult_of_shows honours htitle hrows s) _).trans
    (fail_unless_hadFailures r _)

theorem conclude_table_of_error {r : RunResult} {f : Failure}
    (htitle : w.console.render (traceTitle r.trace.runId) = .error f) (s : Logged Session) :
    conclude w false r s = (.error (.unhandled f), s) :=
  Act.bind_of_error (showResult_of_error htitle s) _

/-! ## Agreement -/

/-- The report on an act of a command. -/
def reportOn (act : Commanding Unit) (s : Logged Session) : Report :=
  Report.ofExit (act s).2 (act s).1

/-- What a command line reports is the report on the command that it names, from a session without
effects; of the log it shows what is severe enough. -/
theorem performCommand_of_read {c : Subcommand} {arguments : List String} {invocation : Invocation}
    (h : c.read w.lookup arguments = .ok invocation) (verbose : Bool) :
    performCommand w verbose c arguments =
      let level := if verbose then Log.Severity.debug.rank else Log.levelOfName w.settings.logLevel
      let report := reportOn (invocation.act w c) { state := { time := w.start } }
      { report with logger := some (loggerName, level), log := Log.shown level report.log } := by
  unfold performCommand reportOn
  rw [h]

/-- The report on a command that ends with a code after some more effects. -/
def ended (exitCode : Nat) (effects : List Effect) (s : Logged Session) : Report where
  exitCode := exitCode
  effects := s.state.effects ++ effects
  log := s.log

/-- An entry of a trace is failed. -/
def HasFailed (r : RunResult) : Prop := ∃ e ∈ r.trace.entries, e.status = .failed

instance (r : RunResult) : Decidable (HasFailed r) :=
  inferInstanceAs (Decidable (∃ e ∈ r.trace.entries, e.status = .failed))

section Reports

variable {act : Commanding Unit} {effects : List Effect} {t : Logged Session} {r : RunResult}

theorem reportOn_of_ok (h : act s = (.ok (), withEffects effects t)) :
    reportOn act s = ended 0 effects t := by
  rw [reportOn, h]
  rfl

theorem reportOn_of_status {code : Nat}
    (h : act s = (.error (.status code), withEffects effects t)) :
    reportOn act s = ended code effects t := by
  rw [reportOn, h]
  rfl

theorem reportOn_of_unhandled {f : Failure} (h : act s = (.error (.unhandled f), t)) :
    reportOn act s = { ended 1 [] t with failure := some f } := by
  rw [reportOn, h]
  simp [ended, Report.ofExit]

theorem reportOn_of_exitOf (h : act s = (exitOf r, withEffects effects t))
    (hfailed : r.trace.hadFailures = true ↔ HasFailed r) :
    reportOn act s = ended (if HasFailed r then 1 else 0) effects t := by
  rw [exitOf, if_congr hfailed rfl rfl] at h
  by_cases hentry : HasFailed r
  · rw [if_pos hentry] at h ⊢
    exact reportOn_of_status h
  · rw [if_neg hentry] at h ⊢
    exact reportOn_of_ok h

theorem run_of_traceOf_ok (asJson : Bool) (h : traceOf w (!asJson) file job s = (.ok r, t)) :
    run w file job asJson s = conclude w asJson r t := by
  rw [run_eq, Act.bind_of_ok h]

theorem run_of_traceOf_error {exit : Exit} (asJson : Bool)
    (h : traceOf w (!asJson) file job s = (.error exit, t)) :
    run w file job asJson s = (.error exit, t) := by
  rw [run_eq, Act.bind_of_error h]

/-- Written as JSON, a run that leaves a trace of a plan ends as its entries say. -/
theorem Traces.reportOn_json {plan : Plan} (h : Traces w plan r)
    (htrace : traceOf w false file job s = (.ok r, t)) :
    reportOn (run w file job true) s = ended (if HasFailed r then 1 else 0)
      [.wrote (Json.writeIndented r.trace.payload ++ "\n")] t :=
  reportOn_of_exitOf ((run_of_traceOf_ok true htrace).trans (conclude_json w r t)) h.had_failures

/-- Shown as a table, it does so too, if the title can be shown. -/
theorem Traces.reportOn_table (honours : w.console.Honours) {plan : Plan} (h : Traces w plan r)
    (htypes : ∀ n ∈ plan.order, '[' ∉ n.type.toList)
    (htrace : traceOf w true file job s = (.ok r, t))
    (htitle : w.console.Shows (traceTitle w.runId)) :
    reportOn (run w file job false) s =
      ended (if HasFailed r then 1 else 0) (traceEffects w r) t := by
  rw [← h.run_id] at htitle
  have hconclude := conclude_table_of_shows honours htitle (h.shows_rows honours htypes) t
  exact reportOn_of_exitOf ((run_of_traceOf_ok false htrace).trans hconclude) h.had_failures

/-- If the title cannot be shown, it ends with the failure of the console. -/
theorem Traces.reportOn_untitled {plan : Plan} (h : Traces w plan r)
    (htrace : traceOf w true file job s = (.ok r, t)) {f : Failure}
    (htitle : w.console.render (traceTitle w.runId) = .error f) :
    reportOn (run w file job false) s = { ended 1 [] t with failure := some f } := by
  rw [← h.run_id] at htitle
  have hconclude := conclude_table_of_error htitle t
  exact reportOn_of_unhandled ((run_of_traceOf_ok false htrace).trans hconclude)

/-- Two commands that end early alike end with the same code. -/
theorem exitCode_reportOn_of_error {act' : Commanding Unit} {exit : Exit} {t' : Logged Session}
    (h : act s = (.error exit, t)) (h' : act' s = (.error exit, t')) :
    (reportOn act s).exitCode = (reportOn act' s).exitCode := by
  unfold reportOn
  rw [h, h']
  cases exit <;> rfl

end Reports

/-- The words in which a run refuses a text that validation refuses for a reason, and what it then
logs. -/
def refusalIn (content : String) (j : Job) (reason : String) : String × List Log.Event :=
  match workflowIn content with
  | .error _ => (reason, [])
  | .ok _ => ("invalid cron workflow: " ++ reason, [.workflowInvalid j.id reason])

theorem refusalIn_of_error {error : PayloadError} (h : workflowIn content = .error error)
    (j : Job) (reason : String) : refusalIn content j reason = (reason, []) := by
  unfold refusalIn
  rw [h]

theorem refusalIn_of_ok {workflow : Workflow} (h : workflowIn content = .ok workflow) (j : Job)
    (reason : String) : refusalIn content j reason =
      ("invalid cron workflow: " ++ reason, [.workflowInvalid j.id reason]) := by
  unfold refusalIn
  rw [h]

/-- The clock can tell the time as long as a run of the text lasts. -/
def Surroundings.KeepsTimeFor (w : Surroundings) (content : String) (s : Session) : Prop :=
  ∀ plan, (service w true).plan (some (.value (.string content))) = .ok plan → w.KeepsTime plan s

/-- Validating a file with a text and running it for a job agree, from a session. -/
structure Agrees (w : Surroundings) (file content job : String) (j : Job) (s : Logged Session) :
    Prop where
  /-- A file is valid iff a run leaves a trace, if waits are not broken off and the clock can tell
  the time. -/
  valid_iff (hwaits : w.IsUninterrupted) (htime : w.KeepsTimeFor content s.state) (echoes : Bool) :
    (reportOn (validate w file) s).exitCode = 0 ↔ ∃ r, (traceOf w echoes file job s).1 = .ok r
  /-- A file that is not valid is refused by both, in the same words. -/
  refused (h : (reportOn (validate w file) s).exitCode ≠ 0) :
    ∃ reason,
      reportOn (validate w file) s =
        ended 1 [shownLine w (invalidLine w reason), shownLine w (typesLine w)] s ∧
      ∀ asJson, reportOn (run w file job asJson) s =
        ended 1 [shownLine w (refusalLine w (refusalIn content j reason).1)]
          { s with log := s.log ++ (refusalIn content j reason).2 }
  /-- The entries of a trace are those of the nodes in the order that validation shows. -/
  order (echoes : Bool) (r : RunResult) (h : (traceOf w echoes file job s).1 = .ok r) :
    ∃ plan : Plan,
      reportOn (validate w file) s =
        ended 0 [shownLine w (validLine w plan.startId), .showed (orderTable w plan),
          shownLine w (typesLine w)] s ∧
      r.trace.entries.map (fun e => (e.nodeId, e.nodeType)) =
        plan.order.map fun n => (n.id, n.type)
  /-- Up to the trace, the formats differ in what is printed only. -/
  same_trace : Alike (traceOf w true file job s) (traceOf w false file job s)
  /-- Written as JSON, a run with a trace ends with the code one iff an entry is failed. -/
  json (r : RunResult) (t : Logged Session) (h : traceOf w false file job s = (.ok r, t)) :
    reportOn (run w file job true) s =
      ended (if HasFailed r then 1 else 0)
        [.wrote (Json.writeIndented r.trace.payload ++ "\n")] t
  /-- Shown as a table, it ends likewise, if the console can show the id of the run. -/
  table (r : RunResult) (t : Logged Session) (h : traceOf w true file job s = (.ok r, t))
    (htitle : w.console.Shows (traceTitle w.runId)) :
    reportOn (run w file job false) s =
      ended (if HasFailed r then 1 else 0) (traceEffects w r) t
  /-- If the console cannot, then it ends with the failure of the console. -/
  untitled (r : RunResult) (t : Logged Session) (h : traceOf w true file job s = (.ok r, t))
    (f : Failure) (htitle : w.console.render (traceTitle w.runId) = .error f) :
    reportOn (run w file job false) s = { ended 1 [] t with failure := some f }
  /-- A first failure is shown iff an entry is failed. -/
  first_failure (echoes : Bool) (r : RunResult) (h : (traceOf w echoes file job s).1 = .ok r) :
    r.error.isSome = true ↔ HasFailed r
  /-- If the console can show the id, then the formats end with the same code. -/
  same_code (htitle : w.console.Shows (traceTitle w.runId)) :
    (reportOn (run w file job true) s).exitCode = (reportOn (run w file job false) s).exitCode

/-- Both commands refuse a text in the words of one reason: they agree. -/
theorem agrees_of_giveUp (honours : w.console.Honours) {reason : String}
    (hvalidate : validate w file s = (.error (.status 1),
      withEffects [shownLine w (invalidLine w reason), shownLine w (typesLine w)] s))
    (htrace : ∀ echoes, traceOf w echoes file job s =
      (giveUp w (refusalIn content j reason).1 : Commanding RunResult)
        { s with log := s.log ++ (refusalIn content j reason).2 }) :
    Agrees w file content job j s := by
  simp only [giveUp_of_honours honours] at htrace
  have hcode : (reportOn (validate w file) s).exitCode = 1 := by
    rw [reportOn_of_status hvalidate]
    rfl
  have hrun (asJson : Bool) : reportOn (run w file job asJson) s =
      ended 1 [shownLine w (refusalLine w (refusalIn content j reason).1)]
        { s with log := s.log ++ (refusalIn content j reason).2 } :=
    reportOn_of_status (run_of_traceOf_error asJson (htrace _))
  have hnone (echoes : Bool) (r : RunResult) : (traceOf w echoes file job s).1 ≠ .ok r := by
    rw [htrace]
    intro h
    cases h
  constructor
  case valid_iff =>
    intro _ _ echoes
    rw [hcode, htrace]
    simp
  case refused => exact fun _ => ⟨reason, reportOn_of_status hvalidate, hrun⟩
  case order => exact fun echoes r h => absurd h (hnone echoes r)
  case same_trace =>
    rw [htrace, htrace]
    exact .refl _
  case json => exact fun r t h => absurd (congrArg Prod.fst h) (hnone false r)
  case table => exact fun r t h => absurd (congrArg Prod.fst h) (hnone true r)
  case untitled => exact fun r t h => absurd (congrArg Prod.fst h) (hnone true r)
  case first_failure => exact fun echoes r h => absurd h (hnone echoes r)
  case same_code =>
    intro _
    rw [hrun, hrun]

/-- A text has a plan, and the runs leave traces of nothing else, and one at least if waits are not
broken off and the clock can tell the time: the commands agree. -/
theorem agrees_of_plan (honours : w.console.Honours) {plan : Plan}
    (hplan : (service w true).plan (some (.value (.string content))) = .ok plan)
    (hvalidate : validate w file s = (.ok (), withEffects [shownLine w (validLine w plan.startId),
      .showed (orderTable w plan), shownLine w (typesLine w)] s))
    (htraces : ∀ echoes r, (traceOf w echoes file job s).1 = .ok r → Traces w plan r)
    (hyields : w.IsUninterrupted → w.KeepsTime plan s.state →
      ∀ echoes, ∃ r, (traceOf w echoes file job s).1 = .ok r)
    (halike : Alike (traceOf w true file job s) (traceOf w false file job s)) :
    Agrees w file content job j s := by
  have hvalid := reportOn_of_ok hvalidate
  have htypes := notMem_type_of_plan hplan
  constructor
  case valid_iff =>
    intro hwaits htime echoes
    rw [hvalid]
    exact iff_of_true rfl (hyields hwaits (htime plan hplan) echoes)
  case refused =>
    intro h
    rw [hvalid] at h
    exact absurd rfl h
  case order =>
    intro echoes r h
    exact ⟨plan, hvalid, map_entries_of_areOf (htraces echoes r h).entries⟩
  case same_trace => exact halike
  case json => exact fun r t h => (htraces false r (congrArg Prod.fst h)).reportOn_json h
  case table =>
    exact fun r t h => (htraces true r (congrArg Prod.fst h)).reportOn_table honours htypes h
  case untitled =>
    exact fun r t h f htitle =>
      (htraces true r (congrArg Prod.fst h)).reportOn_untitled h htitle
  case first_failure =>
    intro echoes r h
    rw [(htraces echoes r h).error]
    exact (htraces echoes r h).had_failures
  case same_code =>
    intro htitle
    have hresults := halike.1
    -- both formats come to the same end, of which the exit code is made
    rcases hechoed : traceOf w true file job s with ⟨exit | r, t⟩ <;>
      rcases hsilent : traceOf w false file job s with ⟨exit' | r', t'⟩ <;>
      rw [hechoed, hsilent] at hresults <;> cases hresults
    · exact exitCode_reportOn_of_error (run_of_traceOf_error true hsilent)
        (run_of_traceOf_error false hechoed)
    · have htrace := htraces true r (congrArg Prod.fst hechoed)
      rw [htrace.reportOn_json hsilent, htrace.reportOn_table honours htypes hechoed htitle]
      rfl

/-- Whatever text a file holds, and for every job, validating the file and running it agree, on
every console that honours its markup. -/
theorem agrees_of_reads (honours : w.console.Honours) (h : w.Reads file content job j)
    (s : Logged Session) : Agrees w file content job j s := by
  have hfile := h.holds
  cases hload : workflowIn content with
  | error error =>
    have hplan := plan_of_not_load (w := w) hload true
    refine agrees_of_giveUp honours (validate_of_refused honours hfile hplan s) fun echoes => ?_
    rw [traceOf_of_workflowIn_error hfile hload, refusalIn_of_error hload, List.append_nil]
    rfl
  | ok workflow =>
    have htrace (echoes : Bool) (t : Logged Session) :=
      traceOf_of_workflowIn_ok hfile h.isJobText hload echoes t
    have hplans (echoes : Bool) :
        (service w echoes).plan ((jobOfRun w j workflow).workflow.map .ready) =
          (service w true).plan (some (.value (.string content))) := by
      rw [plan_of_load hload true, plan_service w echoes]
      rfl
    cases hplan : (service w true).plan (some (.value (.string content))) with
    | ok plan =>
      have hplans' (echoes : Bool) := (hplans echoes).trans hplan
      refine agrees_of_plan honours hplan (validate_of_plan honours hfile hplan s)
        (fun echoes r hr => ?_) (fun hwaits htime echoes => ?_) ?_
      · rw [htrace] at hr
        exact (ends_execute honours (hplans' echoes) s).1 r hr
      · obtain ⟨r, t, hexecute, -⟩ :=
          exists_execute_of_keepsTime honours hwaits (hplans' echoes) htime
        rw [htrace, hexecute]
        exact ⟨r, rfl⟩
      · rw [htrace, htrace]
        exact alike_execute honours _ s
    | error stop =>
      obtain ⟨reason, rfl⟩ := exists_refused_of_plan ((plan_of_load hload true).symm.trans hplan)
      refine agrees_of_giveUp honours (validate_of_refused honours hfile hplan s) fun echoes => ?_
      rw [htrace, execute_of_refused ((hplans echoes).trans hplan), refusalIn_of_ok hload]
      rfl

/-- A workflow that waits for nothing. -/
def restingWorkflow : Workflow where
  version := "v1"
  nodes := [{ id := "s", type := "start" }, { id := "a", type := "delay" }]
  edges := [{ id := "e", source := "s", target := "a" }]

/-- The workflow as a text. -/
def restingText : String :=
  "\x7b\"version\":\"v1\",\"nodes\":[\x7b\"id\":\"s\",\"type\":\"start\"\x7d,\x7b\"id\":\"a\"," ++
    "\"type\":\"delay\"\x7d],\"edges\":[\x7b\"id\":\"e\",\"source\":\"s\",\"target\":\"a\"\x7d]\x7d"

/-- Surroundings in which every path leads to the text. -/
def restingSurroundings (idPrefix : String) : Surroundings where
  lookup _ := .file (Text.Utf8.encode restingText.toList)
  settings := { idPrefix }
  start := 0
  step := 0
  process := 1
  token := "a"

set_option maxRecDepth 20000 in
theorem holds_restingSurroundings (idPrefix file : String) :
    (restingSurroundings idPrefix).Holds file restingText := by
  refine ⟨_, restingText.toList, rfl, by decide +kernel, ?_⟩
  have hreturns : '\r' ∉ restingText.toList := by decide +kernel
  rw [String.ofList_toList, Text.withLineFeeds_of_not_mem hreturns]

theorem isJobText_empty : IsJobText "" {} := by
  unfold IsJobText jobText
  rfl

set_option maxRecDepth 20000 in
theorem workflowIn_restingText : workflowIn restingText = .ok restingWorkflow := by decide +kernel

theorem reads_restingSurroundings (idPrefix file : String) :
    (restingSurroundings idPrefix).Reads file restingText "" {} where
  holds := holds_restingSurroundings idPrefix file
  isJobText := isJobText_empty
  pairs_content := by decide +kernel
  pairs_job := by decide +kernel

theorem agrees_of_reads_restingSurroundings :
    (restingSurroundings "run").console.Honours ∧
      (restingSurroundings "run").Reads "wf.json" restingText "" {} ∧
      Agrees (restingSurroundings "run") "wf.json" restingText "" {} { state := { time := 0 } } :=
  have hreads := reads_restingSurroundings "run" "wf.json"
  ⟨Console.honours_plain, hreads, agrees_of_reads Console.honours_plain hreads _⟩

set_option maxRecDepth 20000 in
/-- If run ids begin with a closing tag, then the formats of a run without failures end with two
codes. -/
theorem not_same_code_of_closingTag :
    ¬∀ (w : Surroundings) (file content job : String) (j : Job) (s : Logged Session),
      w.console.Honours → w.Reads file content job j →
        (reportOn (run w file job true) s).exitCode =
          (reportOn (run w file job false) s).exitCode := by
  intro h
  have hreads := reads_restingSurroundings "[/x]" "wf.json"
  have hcodes := h _ "wf.json" restingText "" {} { state := { time := 0 } } Console.honours_plain
    hreads
  have hrun (asJson : Bool) (s : Logged Session) :
      run (restingSurroundings "[/x]") "wf.json" "" asJson s =
        (execute (restingSurroundings "[/x]") (!asJson)
          (jobOfRun (restingSurroundings "[/x]") {} restingWorkflow) >>=
            conclude (restingSurroundings "[/x]") asJson) s := by
    rw [run_eq, Act.bind_apply, Act.bind_apply,
      traceOf_of_workflowIn_ok hreads.holds isJobText_empty workflowIn_restingText]
  rw [reportOn, reportOn, hrun, hrun] at hcodes
  revert hcodes
  decide +kernel

end JobChain.Command
