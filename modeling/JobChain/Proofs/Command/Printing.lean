import JobChain.Command.Program
import JobChain.Proofs.Act
import JobChain.Proofs.Text.Markup

/-!
# What the program prints

The program puts escaped texts between the tags of its own messages.  Consoles differ in what they
make of marked-up texts, but a console that honours its markup shows every message whose tags fit,
since an escaped text cannot disturb the tags around it.  On such a console every line and every row
that the program prints shows, whatever ids, titles, texts and reasons are in it.  Only the title of
the table of a run holds a text that is not escaped: the id of the run.

* `Console.Shows`: a text that a console can show, and `Console.shown`, what shows of it.
* `Console.Honours`: what is asked of a console; `honours_plain`, a console that does it.
* `say_of_shows`, `printTable_of_shows`: what printing does then.
* `shows_refusalLine` and its like: the lines and rows of the program.
-/

namespace JobChain.Command

open Text.Markup (Part isWellTagged message isStyleName isLiteralChar)

/-! ## Consoles -/

namespace Console

/-- A text that a console can show. -/
def Shows (console : Console) (text : String) : Prop := ∃ shown, console.render text = .ok shown

/-- What shows of a text, if a console can show it. -/
def shown (console : Console) (text : String) : String := (console.render text).toOption.getD ""

/-- A console honours its markup: texts without an opening bracket show, and so do messages whose
tags fit, with texts in them that it has escaped. -/
structure Honours (console : Console) : Prop where
  unmarked (text : String) (h : '[' ∉ text.toList) : console.Shows text
  tagged (parts : List Part) (h : isWellTagged false [] parts = true) :
    console.Shows (message console.escape parts)

variable {console : Console} {text : String}

theorem render_of_shows (h : console.Shows text) :
    console.render text = .ok (console.shown text) := by
  obtain ⟨shown, hshown⟩ := h
  rw [Console.shown, hshown]
  rfl

/-- A text that a console cannot show comes with a failure. -/
theorem exists_render_eq_error (h : ¬console.Shows text) : ∃ f, console.render text = .error f := by
  cases hrender : console.render text with
  | error f => exact ⟨f, rfl⟩
  | ok shown => exact absurd ⟨shown, hrender⟩ h

theorem shows_plain_iff : plain.Shows text ↔ (Text.Markup.plain? text).isSome = true := by
  unfold Shows plain
  dsimp only
  cases Text.Markup.plain? text <;> simp

/-- The plain console honours its markup. -/
theorem honours_plain : plain.Honours where
  unmarked _ h := shows_plain_iff.mpr (Text.Markup.isSome_plain?_of_notMem h)
  tagged _ h := shows_plain_iff.mpr (Text.Markup.isSome_plain?_message h)

end Console

/-! ## Printing -/

namespace Session

variable {console : Console}

theorem shown_of_shows {text : String} (h : console.Shows text) (s : Session) :
    shown console text s = (.ok (console.shown text), s) := by
  rw [shown, Console.render_of_shows h]
  rfl

theorem print_of_shows {text : String} (h : console.Shows text) (s : Session) :
    print console text s =
      (.ok (), { s with effects := s.effects ++ [.showed (.line (console.shown text))] }) := by
  rw [print, Act.bind_of_ok (shown_of_shows h s)]
  rfl

theorem shownAll_of_shows {texts : List String} (h : ∀ text ∈ texts, console.Shows text)
    (s : Session) : shownAll console texts s = (.ok (texts.map console.shown), s) := by
  induction texts with
  | nil => rfl
  | cons text rest ih =>
    obtain ⟨htext, hrest⟩ := List.forall_mem_cons.mp h
    rw [shownAll, Act.bind_of_ok (shown_of_shows htext s), Act.bind_of_ok (ih hrest)]
    rfl

theorem shownRows_of_shows {rows : List (List String)}
    (h : ∀ row ∈ rows, ∀ text ∈ row, console.Shows text) (s : Session) :
    shownRows console rows s = (.ok (rows.map (List.map console.shown)), s) := by
  induction rows with
  | nil => rfl
  | cons row rest ih =>
    obtain ⟨hrow, hrest⟩ := List.forall_mem_cons.mp h
    rw [shownRows, Act.bind_of_ok (shownAll_of_shows hrow s), Act.bind_of_ok (ih hrest)]
    rfl

/-- A table whose title and cells can be shown is shown. -/
theorem printTable_of_shows {title : String} {rows : List (List String)}
    (htitle : console.Shows title) (hrows : ∀ row ∈ rows, ∀ text ∈ row, console.Shows text)
    (columns : List String) (s : Session) :
    printTable console (some title) columns rows s =
      (.ok (), { s with
        effects := s.effects ++ [.showed (.table (some (console.shown title)) columns
          (rows.map (List.map console.shown)))] }) := by
  have htitles : ∀ text ∈ (some title).toList, console.Shows text := by simpa using htitle
  rw [printTable, Act.bind_of_ok (shownAll_of_shows htitles s),
    Act.bind_of_ok (shownRows_of_shows hrows s)]
  rfl

/-- A table whose title cannot be shown is not. -/
theorem printTable_of_error {title : String} {f : Failure}
    (htitle : console.render title = .error f) (columns : List String)
    (rows : List (List String)) (s : Session) :
    printTable console (some title) columns rows s = (.error f, s) := by
  have hshown : shown console title s = (.error f, s) := by
    rw [shown, htitle]
    rfl
  rw [printTable, Act.bind_of_error]
  rw [Option.toList_some, shownAll, Act.bind_of_error hshown]

end Session

theorem onSession_apply {α : Type} {act : Act Failure Session α} {s : Logged Session}
    {t : Session} {a : α} (h : act s.state = (.ok a, t)) :
    onSession act s = (.ok a, { s with state := t }) := by
  rw [onSession, Act.mapError_apply, Logged.lift_apply, h]
  rfl

theorem onSession_of_error {α : Type} {act : Act Failure Session α} {s : Logged Session}
    {f : Failure} (h : act s.state = (.error f, s.state)) :
    onSession act s = (.error (.unhandled f), s) := by
  rw [onSession, Act.mapError_apply, Logged.lift_apply, h]
  rfl

/-- A session with some more effects. -/
def withEffects (effects : List Effect) (s : Logged Session) : Logged Session :=
  { s with state := { s.state with effects := s.state.effects ++ effects } }

theorem withEffects_withEffects (earlier later : List Effect) (s : Logged Session) :
    withEffects later (withEffects earlier s) = withEffects (earlier ++ later) s := by
  simp [withEffects]

variable {w : Surroundings}

/-- A line as it shows. -/
def shownLine (w : Surroundings) (text : String) : Effect := .showed (.line (w.console.shown text))

theorem say_of_shows {text : String} (h : w.console.Shows text) (s : Logged Session) :
    say w text s = (.ok (), withEffects [shownLine w text] s) :=
  onSession_apply (Session.print_of_shows h s.state)

/-! ## Lines -/

/-- The line that tells why a command gives up. -/
def refusalLine (w : Surroundings) (reason : String) : String :=
  "[red]✗ " ++ w.console.escape reason ++ "[/red]"

/-- The line that tells what is wrong with a workflow. -/
def invalidLine (w : Surroundings) (reason : String) : String :=
  "[red]✗ Invalid workflow:[/red] " ++ w.console.escape reason

/-- The line that tells that nothing is wrong with a workflow. -/
def validLine (w : Surroundings) (startId : String) : String :=
  "[green]✓ Workflow is valid[/green] [dim](start: " ++ w.console.escape startId ++ ")[/dim]"

/-- The line that tells the first failure of a run. -/
def failureLine (w : Surroundings) (reason : String) : String :=
  "[red]First failure:[/red] " ++ w.console.escape reason

section Honours

variable (honours : w.console.Honours)

include honours

/-- A text with the characters of parts whose tags fit shows. -/
theorem shows_of_isWellTagged {text : String} {parts : List Part}
    (hchars : text.toList = parts.flatMap (Part.chars w.console.escape))
    (h : isWellTagged false [] parts = true) : w.console.Shows text := by
  have htext : text = message w.console.escape parts := by
    rw [message, ← hchars, String.ofList_toList]
  rw [htext]
  exact honours.tagged parts h

theorem shows_refusalLine (reason : String) : w.console.Shows (refusalLine w reason) := by
  have hchars : (refusalLine w reason).toList =
      [.opening "red", .literal "✗ ", .escaped reason, .closing "red"].flatMap
        (Part.chars w.console.escape) := by
    unfold refusalLine
    simp [Part.chars]
  exact shows_of_isWellTagged honours hchars rfl

theorem shows_invalidLine (reason : String) : w.console.Shows (invalidLine w reason) := by
  have hchars : (invalidLine w reason).toList =
      [.opening "red", .literal "✗ Invalid workflow:", .closing "red", .literal " ",
        .escaped reason].flatMap (Part.chars w.console.escape) := by
    unfold invalidLine
    simp [Part.chars]
  exact shows_of_isWellTagged honours hchars rfl

theorem shows_validLine (startId : String) : w.console.Shows (validLine w startId) := by
  have hchars : (validLine w startId).toList =
      [.opening "green", .literal "✓ Workflow is valid", .closing "green", .literal " ",
        .opening "dim", .literal "(start: ", .escaped startId, .literal ")", .closing "dim"].flatMap
        (Part.chars w.console.escape) := by
    unfold validLine
    simp [Part.chars]
  exact shows_of_isWellTagged honours hchars rfl

theorem shows_failureLine (reason : String) : w.console.Shows (failureLine w reason) := by
  have hchars : (failureLine w reason).toList =
      [.opening "red", .literal "First failure:", .closing "red", .literal " ",
        .escaped reason].flatMap (Part.chars w.console.escape) := by
    unfold failureLine
    simp [Part.chars]
  exact shows_of_isWellTagged honours hchars rfl

theorem shows_typesLine : w.console.Shows (typesLine w) := by
  have hchars : (typesLine w).toList =
      [.opening "dim", .literal "Node types: ",
        .escaped (", ".intercalate (startType :: (service w true).registry.types)),
        .closing "dim"].flatMap (Part.chars w.console.escape) := by
    unfold typesLine
    simp [Part.chars]
  exact shows_of_isWellTagged honours hchars rfl

theorem shows_deliveryLine (j : Job) (text : String) :
    w.console.Shows (deliveryLine w j text) := by
  have hchars : (deliveryLine w j text).toList =
      [.opening "cyan", .escaped ("[" ++ j.dispatch.channel ++ "]"), .closing "cyan",
        .literal " ", .opening "bold",
        .escaped (if j.name ≠ "" then j.name else if j.id ≠ "" then j.id else "workflow"),
        .closing "bold", .literal ": ", .escaped text].flatMap (Part.chars w.console.escape) := by
    unfold deliveryLine
    simp [Part.chars]
  exact shows_of_isWellTagged honours hchars rfl

theorem shows_escape (text : String) : w.console.Shows (w.console.escape text) := by
  have hchars : (w.console.escape text).toList =
      [.escaped text].flatMap (Part.chars w.console.escape) := by
    simp [Part.chars]
  exact shows_of_isWellTagged honours hchars rfl

/-- A literal in some style shows. -/
theorem shows_styled {style text : String} (hstyle : isStyleName style = true)
    (hne : text ≠ "") (htext : text.toList.all isLiteralChar = true) :
    w.console.Shows ("[" ++ style ++ "]" ++ text ++ "[/" ++ style ++ "]") := by
  have hchars : ("[" ++ style ++ "]" ++ text ++ "[/" ++ style ++ "]").toList =
      [.opening style, .literal text, .closing style].flatMap (Part.chars w.console.escape) := by
    simp [Part.chars]
  refine shows_of_isWellTagged honours hchars ?_
  simp [isWellTagged, hstyle, hne, htext]

end Honours

/-! ## Cells -/

theorem notMem_repr_nat (n : Nat) : '[' ∉ n.repr.toList := by
  intro h
  rw [Nat.toList_repr] at h
  have hdigit := Nat.isDigit_of_mem_toDigits (by decide) (by decide) h
  exact absurd hdigit (by decide)

theorem notMem_repr_int (i : Int) : '[' ∉ i.repr.toList := by
  cases i with
  | ofNat n => exact notMem_repr_nat n
  | negSucc n =>
    rw [Int.repr, String.toList_append]
    simpa using notMem_repr_nat (n + 1)

theorem notMem_twoDigits (n : Nat) : '[' ∉ (Clock.twoDigits n).toList := by
  unfold Clock.twoDigits
  split
  · rw [String.toList_append]
    simpa using notMem_repr_nat n
  · exact notMem_repr_nat n

/-- The text of a time holds no bracket. -/
theorem notMem_timeText {time : Int} {text : String} (h : Clock.timeText time = .ok text) :
    '[' ∉ text.toList := by
  unfold Clock.timeText at h
  simp only at h
  split at h
  · cases h
    simp [Clock.Date.text, Clock.timeOfDayText, notMem_twoDigits, notMem_repr_int]
  · cases h

section Cells

variable (honours : w.console.Honours)

include honours

/-- The rows of nodes can be shown, if their types can. -/
theorem shows_of_mem_orderRow {n : Node} (htype : '[' ∉ n.type.toList) (position : Nat) :
    ∀ text ∈ orderRow w position n, w.console.Shows text := by
  have htitle : w.console.Shows
      (if n.title = "" then "[dim]-[/dim]" else w.console.escape n.title) := by
    split
    · exact @shows_styled w honours "dim" "-" rfl (by decide) rfl
    · exact shows_escape honours n.title
  have hmark : w.console.Shows
      (if n.continueOnError then "[green]●[/green]" else "[dim]○[/dim]") := by
    split
    · exact @shows_styled w honours "green" "●" rfl (by decide) rfl
    · exact @shows_styled w honours "dim" "○" rfl (by decide) rfl
  simp only [orderRow, List.forall_mem_cons]
  exact ⟨honours.unmarked _ (notMem_repr_nat position), shows_escape honours n.id,
    honours.unmarked _ htype, htitle, hmark, by simp⟩

theorem shows_of_mem_orderRows {nodes : List Node} (htypes : ∀ n ∈ nodes, '[' ∉ n.type.toList)
    (position : Nat) : ∀ row ∈ orderRows w position nodes, ∀ text ∈ row, w.console.Shows text := by
  induction nodes generalizing position with
  | nil => simp [orderRows]
  | cons n rest ih =>
    obtain ⟨hn, hrest⟩ := List.forall_mem_cons.mp htypes
    rw [orderRows]
    exact List.forall_mem_cons.mpr
      ⟨shows_of_mem_orderRow honours hn position, ih hrest (position + 1)⟩

/-- The row of an entry can be shown, if its type and its times can. -/
theorem shows_of_mem_entryRow {e : Entry} (htype : '[' ∉ e.nodeType.toList)
    (hstarted : '[' ∉ e.startedAt.toList)
    (hfinished : ∀ text, e.finishedAt = some text → '[' ∉ text.toList) :
    ∀ text ∈ entryRow w e, w.console.Shows text := by
  have hstatus : w.console.Shows ("[" ++ statusColour e.status ++ "]" ++ e.status.name ++
      "[/" ++ statusColour e.status ++ "]") := by
    cases e.status <;> exact shows_styled honours rfl (by decide) rfl
  have hfinished' : '[' ∉ (e.finishedAt.getD "").toList := by
    cases h : e.finishedAt with
    | none => simp
    | some text => exact hfinished text h
  simp only [entryRow, List.forall_mem_cons]
  exact ⟨shows_escape honours _, honours.unmarked _ htype, hstatus, honours.unmarked _ hstarted,
    honours.unmarked _ hfinished', shows_escape honours _, by simp⟩

end Cells

end JobChain.Command
