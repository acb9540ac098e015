import JobChain.Proofs.Schema.Reading
import JobChain.Run.Chain
import JobChain.Trace.Schema

/-!
# Stored traces

The stored form of a trace leaves out what is absent.  Nothing is lost by that: the members that are
present are found under their names as before, and the default of a member that is left out is that
it is absent.  So a stored trace is read back as it was.

* `get?_presentMembers`: leaving out absent members, and looking up.
* `Entry.read_payload`, `Trace.read_payload`: what is stored is read back.
* `Trace.restored`: a value that is read as a trace and stored again.
* `Trace.storage_faithful`: what this says of all traces and of all values.
-/

namespace JobChain

open Schema (Checked field required readText readTruth readOptional readItems readEach undeclared)

/-! ## Leaving out absent members -/

/-- Whether a value is there. -/
def Json.isPresent : Json → Bool
  | null => false
  | _ => true

section Members

variable {ms : Table Json} {name : String} {v : Json}

theorem presentMembers_eq (ms : List (String × Json)) :
    presentMembers ms = ms.filter fun m => m.2.isPresent := rfl

/-- A member is found if it was found and is present. -/
theorem get?_presentMembers (hnames : ms.names.Nodup) (name : String) :
    Table.get? (presentMembers ms) name = (ms.get? name).filter Json.isPresent := by
  rw [presentMembers_eq, Table.get?_filter _ hnames]

theorem get?_presentMembers_of_isPresent (hnames : ms.names.Nodup) (h : ms.get? name = some v)
    (hv : v.isPresent = true) : Table.get? (presentMembers ms) name = some v := by
  rw [get?_presentMembers hnames, h, Option.filter_some, if_pos hv]

/-- A present member that has to be there is read as before. -/
theorem required_presentMembers {α : Type} {read : Json → Checked α} (hnames : ms.names.Nodup)
    (name : String) (h : ms.get? name = some v) (hv : v.isPresent = true) :
    required (presentMembers ms) name read = (read v).at (.name name) := by
  rw [required, get?_presentMembers_of_isPresent hnames h hv]

/-- So is a present member that has a default. -/
theorem field_presentMembers {α : Type} {read : Json → Checked α} {default : α}
    (hnames : ms.names.Nodup) (name : String) (h : ms.get? name = some v)
    (hv : v.isPresent = true) :
    field (presentMembers ms) name read default = (read v).at (.name name) := by
  rw [field, get?_presentMembers_of_isPresent hnames h hv]

/-- An optional text is read back, whether it is left out or not. -/
theorem field_presentMembers_ofText? {text : Option String} (hnames : ms.names.Nodup)
    (name : String) (h : ms.get? name = some (.ofText? text)) :
    field (presentMembers ms) name (readOptional readText) none = .ok text := by
  cases text with
  | none =>
    rw [field, get?_presentMembers hnames, h]
    rfl
  | some s =>
    rw [field_presentMembers hnames name h rfl]
    rfl

/-- What is declared of all members is declared of those that are present. -/
theorem undeclared_presentMembers {declared : List String}
    (h : ∀ name ∈ ms.names, name ∈ declared) : undeclared declared (presentMembers ms) = [] := by
  refine Schema.undeclared_eq_nil_iff.mpr fun name hname => h name ?_
  exact (List.filter_sublist.map Prod.fst).subset hname

end Members

/-! ## Entries -/

theorem Status.read_name (s : Status) : Status.read (.string s.name) = .ok s := by
  rw [read, ofName?_name]
  rfl

/-- The members of an entry that are present are read as the entry. -/
theorem Entry.ofMembers_presentMembers (e : Entry) :
    Entry.ofMembers (presentMembers e.members) = .ok e := by
  have hnames : Table.names e.members = Entry.fields := rfl
  have hnodup : (Table.names e.members).Nodup := by
    rw [hnames]
    decide
  have hundeclared : undeclared Entry.fields (presentMembers e.members) = [] :=
    undeclared_presentMembers fun name h => hnames ▸ h
  unfold Entry.ofMembers
  rw [required_presentMembers hnodup "node_id" rfl rfl,
    required_presentMembers hnodup "node_type" rfl rfl,
    required_presentMembers hnodup "status" rfl rfl,
    field_presentMembers hnodup "continue_on_error" rfl rfl,
    required_presentMembers hnodup "started_at" rfl rfl,
    field_presentMembers_ofText? hnodup "finished_at" rfl,
    field_presentMembers_ofText? hnodup "error" rfl, Status.read_name, hundeclared]
  rfl

/-- A stored entry is read back as it was. -/
theorem Entry.read_payload (e : Entry) : Entry.read e.payload = .ok e :=
  e.ofMembers_presentMembers

/-- So are the stored entries of a list, from any index on. -/
theorem readItems_map_payload (entries : List Entry) (start : Nat) :
    readItems Entry.read start (entries.map Entry.payload) = .ok entries := by
  induction entries generalizing start with
  | nil => rfl
  | cons e entries ih =>
    rw [List.map_cons, readItems, ih, e.read_payload]
    rfl

/-! ## Traces -/

/-- A stored trace is read back as it was. -/
theorem Trace.read_payload (t : Trace) : Trace.read t.payload = .ok t := by
  have hnames : Table.names (t.members Entry.payload) = Trace.fields := rfl
  have hnodup : (Table.names (t.members Entry.payload)).Nodup := by
    rw [hnames]
    decide
  have hundeclared : undeclared Trace.fields (presentMembers (t.members Entry.payload)) = [] :=
    undeclared_presentMembers fun name h => hnames ▸ h
  have hentries : readEach .list Entry.read (.array (t.entries.map Entry.payload)) =
      .ok t.entries := readItems_map_payload t.entries 0
  show Trace.ofMembers (presentMembers (t.members Entry.payload)) = .ok t
  unfold Trace.ofMembers
  rw [required_presentMembers hnodup "run_id" rfl rfl,
    required_presentMembers hnodup "started_at" rfl rfl,
    field_presentMembers_ofText? hnodup "finished_at" rfl,
    field_presentMembers hnodup "had_failures" rfl rfl,
    field_presentMembers hnodup "nodes" rfl rfl, hentries, hundeclared]
  rfl

/-- A value that is read as a trace and stored again. -/
def Trace.restored (value : Json) : Checked Json := (Trace.read value).map Trace.payload

theorem Trace.restored_payload (t : Trace) : restored t.payload = .ok t.payload := by
  rw [restored, read_payload]
  rfl

/-- Every trace is read back from its stored form as it was, the traces that runs leave among them.
So no two traces have one stored form, and a value that is read as a trace and stored, once or
twice, comes to the same. -/
theorem Trace.storage_faithful :
    (∀ t : Trace, Trace.read t.payload = .ok t) ∧
    (∀ (σ : Type) (host : Host σ) (jobId : String) (plan : Option Plan) (s : Logged σ),
      ((run host jobId plan s).1.map fun r => Trace.read r.trace.payload) =
        (run host jobId plan s).1.map fun r => .ok r.trace) ∧
    (∀ t t' : Trace, t.payload = t'.payload ↔ t = t') ∧
    ∀ value, restored value >>= restored = restored value := by
  refine ⟨read_payload, fun σ host jobId plan s => ?_, fun t t' => ⟨fun h => ?_, fun h => ?_⟩,
    fun value => ?_⟩
  · simp only [read_payload]
  · have hread := t.read_payload
    rw [h, read_payload] at hread
    exact (Except.ok.inj hread).symm
  · rw [h]
  · unfold restored
    cases Trace.read value with
    | error issues => rfl
    | ok t => exact t.restored_payload

end JobChain
