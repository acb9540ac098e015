import JobChain.Payload
import JobChain.Proofs.Schema.Reading
import Mathlib.Logic.Relation

/-!
# Lenient jobs with strict workflows

The records of a job look up the fields that they declare and nothing else, so other members do not
count.  The records of a workflow look through all members and tell each that they do not declare.
A job reads its workflow as it stands, and so a job with a workflow is accepted iff the job is
without it and the workflow is by itself.

* `Table.Gains`, `Table.Inside`: an object that gains a member, or has one inside that does.
* `Job.GainsMember`: a job that gains a member that it, its dispatch or its target does not declare.
* `Job.ofMembers_eq_ok_iff`: a job is read iff its fields are.
* `Workflow.HasUndeclared`: an undeclared member in a workflow, with its path; and
  `Workflow.finds_of_hasUndeclared`, that it is told.
* `Job.lenient_and_workflow_strict`: what this says of payloads.
-/

namespace JobChain

open Schema (Checked Issue Key Fault field readText readTruth readDictionary)
open Schema.Checked (take take_eq_ok_iff)

/-! ## Objects with one member more -/

namespace Table

variable {α : Type} {ms ms' : Table Json} {name other : String}

theorem get?_append (t t' : Table α) (name : String) :
    get? (t ++ t') name = (t.get? name).or (t'.get? name) := by
  induction t with
  | nil => rfl
  | cons e t ih =>
    obtain ⟨k, v⟩ := e
    rw [List.cons_append, get?_cons, get?_cons, ih]
    split <;> rfl

/-- The second object has one member more, under a name that is not declared. -/
inductive Gains (declared : List String) : Table Json → Table Json → Prop
  | member (before after : Table Json) {name : String} (value : Json) (h : name ∉ declared) :
    Gains declared (before ++ after) (before ++ (name, value) :: after)

/-- The objects differ in the object under a name only, where they are related. -/
inductive Inside (name : String) (related : Table Json → Table Json → Prop) :
    Table Json → Table Json → Prop
  | member (before after : Table Json) {ms ms' : Table Json} (h : related ms ms') :
    Inside name related (before ++ (name, .object ms) :: after)
      (before ++ (name, .object ms') :: after)

theorem Gains.get?_eq {declared : List String} (h : Gains declared ms ms')
    (hname : name ∈ declared) : ms.get? name = ms'.get? name := by
  cases h with
  | @member before after gained value hgained =>
    have hne : gained ≠ name := fun heq => hgained (heq ▸ hname)
    rw [get?_append, get?_append, get?_cons, if_neg hne]

theorem Inside.get?_eq {related : Table Json → Table Json → Prop} (h : Inside name related ms ms')
    (hne : other ≠ name) : ms.get? other = ms'.get? other := by
  cases h with
  | member before after h =>
    rw [get?_append, get?_append, get?_cons, get?_cons, if_neg hne.symm, if_neg hne.symm]

/-- A field that reads the related objects alike does so in the objects around them. -/
theorem Inside.field_eq {related : Table Json → Table Json → Prop} {read : Json → Checked α}
    {default : α} (h : Inside name related ms ms')
    (hread : ∀ inner inner', related inner inner' → read (.object inner) = read (.object inner')) :
    field ms name read default = field ms' name read default := by
  cases h with
  | @member before after inner inner' hrelated =>
    rw [field, field, get?_append, get?_append, get?_cons, get?_cons, if_pos rfl, if_pos rfl]
    cases get? before name with
    | none =>
      dsimp only [Option.none_or]
      rw [hread inner inner' hrelated]
    | some value => rfl

/-- The object without the members under a name. -/
def without (t : Table α) (name : String) : Table α := t.filter fun e => e.1 != name

theorem get?_without (t : Table α) (name other : String) :
    (t.without name).get? other = if other = name then none else t.get? other := by
  induction t with
  | nil => simp [without]
  | cons e t ih =>
    obtain ⟨k, v⟩ := e
    unfold without at ih ⊢
    rw [List.filter_cons]
    by_cases hk : k = name
    · have hdropped : (k != name) = false := by simp [hk]
      rw [if_neg (by simp [hdropped]), ih, get?_cons]
      by_cases hother : other = name
      · rw [if_pos hother, if_pos hother]
      · rw [if_neg hother, if_neg hother, if_neg fun heq => hother (heq.symm.trans hk)]
    · have hkept : (k != name) = true := by simp [hk]
      rw [if_pos hkept, get?_cons, get?_cons, ih]
      by_cases hother : other = name
      · rw [if_pos hother, if_pos hother, if_neg fun heq => hk (heq.trans hother)]
      · rw [if_neg hother, if_neg hother]

end Table

open Table (Gains Inside)

/-! ## Jobs -/

/-- The fields of a target. -/
def DispatchTarget.fields : List String := ["user_id", "session_id"]

/-- The fields of a dispatch. -/
def Dispatch.fields : List String := ["type", "channel", "target", "mode", "meta"]

/-- The fields of a job. -/
def Job.fields : List String :=
  ["id", "name", "enabled", "task_type", "text", "workflow", "dispatch", "meta"]

/-- A dispatch gains a member that is not declared, or its target does. -/
def Dispatch.GainsMember (ms ms' : Table Json) : Prop :=
  Gains fields ms ms' ∨ Inside "target" (Gains DispatchTarget.fields) ms ms'

/-- A job gains a member that is not declared, or its dispatch does, or its target. -/
def Job.GainsMember (ms ms' : Table Json) : Prop :=
  Gains fields ms ms' ∨ Inside "dispatch" Dispatch.GainsMember ms ms'

section Lenient

variable {ms ms' : Table Json} {j : Job}

theorem DispatchTarget.ofMembers_congr (h : ∀ name ∈ fields, ms.get? name = ms'.get? name) :
    ofMembers ms = ofMembers ms' := by
  simp only [fields, List.forall_mem_cons] at h
  obtain ⟨huser, hsession, -⟩ := h
  unfold ofMembers
  rw [Schema.field_congr huser, Schema.field_congr hsession]

theorem Dispatch.ofMembers_congr
    (h : ∀ name ∈ fields, name ≠ "target" → ms.get? name = ms'.get? name)
    (htarget : field ms "target" DispatchTarget.read {} =
      field ms' "target" DispatchTarget.read {}) : ofMembers ms = ofMembers ms' := by
  have hget (name : String) (hname : name ∈ fields.erase "target") :
      ms.get? name = ms'.get? name := by
    have hmem := (List.Nodup.mem_erase_iff (by decide)).mp hname
    exact h name hmem.2 hmem.1
  unfold ofMembers
  rw [Schema.field_congr (hget "type" (by decide)), Schema.field_congr (hget "channel" (by decide)),
    htarget, Schema.field_congr (hget "mode" (by decide)),
    Schema.field_congr (hget "meta" (by decide))]

theorem Job.ofMembers_congr
    (h : ∀ name ∈ fields, name ≠ "dispatch" → ms.get? name = ms'.get? name)
    (hdispatch : field ms "dispatch" Dispatch.read {} = field ms' "dispatch" Dispatch.read {}) :
    ofMembers ms = ofMembers ms' := by
  have hget (name : String) (hname : name ∈ fields.erase "dispatch") :
      ms.get? name = ms'.get? name := by
    have hmem := (List.Nodup.mem_erase_iff (by decide)).mp hname
    exact h name hmem.2 hmem.1
  unfold ofMembers
  rw [Schema.field_congr (hget "id" (by decide)), Schema.field_congr (hget "name" (by decide)),
    Schema.field_congr (hget "enabled" (by decide)),
    Schema.field_congr (hget "task_type" (by decide)),
    Schema.field_congr (hget "text" (by decide)), Schema.field_congr (hget "workflow" (by decide)),
    hdispatch, Schema.field_congr (hget "meta" (by decide))]

/-- What a dispatch gains does not count. -/
theorem Dispatch.GainsMember.ofMembers_eq (h : GainsMember ms ms') :
    ofMembers ms = ofMembers ms' := by
  rcases h with h | h
  · exact ofMembers_congr (fun name hname _ => h.get?_eq hname)
      (Schema.field_congr (h.get?_eq (by decide)))
  · refine ofMembers_congr (fun name _ hne => h.get?_eq hne)
      (h.field_eq fun inner inner' hinner => ?_)
    exact DispatchTarget.ofMembers_congr fun name hname => hinner.get?_eq hname

/-- What a job gains does not count. -/
theorem Job.GainsMember.ofMembers_eq (h : GainsMember ms ms') : ofMembers ms = ofMembers ms' := by
  rcases h with h | h
  · exact ofMembers_congr (fun name hname _ => h.get?_eq hname)
      (Schema.field_congr (h.get?_eq (by decide)))
  · exact ofMembers_congr (fun name _ hne => h.get?_eq hne)
      (h.field_eq fun inner inner' hinner => hinner.ofMembers_eq)

/-- Nor does what a job gains and loses in any number of steps. -/
theorem Job.ofMembers_eq_of_eqvGen (h : Relation.EqvGen GainsMember ms ms') :
    ofMembers ms = ofMembers ms' := by
  induction h with
  | rel ms ms' h => exact h.ofMembers_eq
  | refl ms => rfl
  | symm ms ms' _ ih => exact ih.symm
  | trans ms ms' ms'' _ _ ih ih' => exact ih.trans ih'

/-- A job is read iff its fields are. -/
theorem Job.ofMembers_eq_ok_iff :
    ofMembers ms = .ok j ↔
      field ms "id" readText "" = .ok j.id ∧ field ms "name" readText "" = .ok j.name ∧
      field ms "enabled" readTruth true = .ok j.enabled ∧
      field ms "task_type" readText "" = .ok j.taskType ∧
      field ms "text" readText "" = .ok j.text ∧
      field ms "workflow" (Schema.readOptional Workflow.read) none = .ok j.workflow ∧
      field ms "dispatch" Dispatch.read {} = .ok j.dispatch ∧
      field ms "meta" readDictionary [] = .ok j.metadata := by
  unfold ofMembers
  constructor
  · intro h
    simp only [take_eq_ok_iff] at h
    obtain ⟨_, _, ⟨_, _, ⟨_, _, ⟨_, _, ⟨_, _, ⟨_, _, ⟨_, _, ⟨_, _, hmk, hid, rfl⟩, hname, rfl⟩,
      henabled, rfl⟩, htask, rfl⟩, htext, rfl⟩, hworkflow, rfl⟩, hdispatch, rfl⟩, hmeta, rfl⟩ := h
    cases hmk
    exact ⟨hid, hname, henabled, htask, htext, hworkflow, hdispatch, hmeta⟩
  · rintro ⟨hid, hname, henabled, htask, htext, hworkflow, hdispatch, hmeta⟩
    rw [hid, hname, henabled, htask, htext, hworkflow, hdispatch, hmeta]
    rfl

/-- A job with a workflow is read iff it is without, and the workflow is by itself.  Then it is the
same job with that workflow. -/
theorem Job.ofMembers_eq_ok_iff_of_workflow {value : Table Json} {j' : Job}
    (hworkflow : ms.get? "workflow" = some (.object value))
    (h : ofMembers (ms.without "workflow") = .ok j) :
    ofMembers ms = .ok j' ↔
      ∃ w, Workflow.read (.object value) = .ok w ∧ j' = { j with workflow := some w } := by
  have hget (name : String) (hne : name ≠ "workflow") :
      ms.get? name = (ms.without "workflow").get? name := by
    rw [Table.get?_without, if_neg hne]
  have hread : field ms "workflow" (Schema.readOptional Workflow.read) none =
      Checked.at (.name "workflow") ((Workflow.read (.object value)).map some) :=
    Schema.field_of_get?_eq_some _ _ _ hworkflow
  obtain ⟨hid, hname, henabled, htask, htext, -, hdispatch, hmeta⟩ := ofMembers_eq_ok_iff.mp h
  rw [← Schema.field_congr (hget _ (by decide))] at hid hname henabled htask htext hdispatch hmeta
  rw [ofMembers_eq_ok_iff, hid, hname, henabled, htask, htext, hread, hdispatch, hmeta]
  cases Workflow.read (.object value) with
  | error issues => simp [Except.map, Checked.at]
  | ok w =>
    obtain ⟨_, _, _, _, _, _, _, _⟩ := j
    obtain ⟨_, _, _, _, _, _, _, _⟩ := j'
    simp only [Except.map, Checked.at_ok, Except.ok.injEq, exists_eq_left', mk.injEq]
    tauto

end Lenient

/-! ## Workflows -/

/-- A member of a workflow is not declared, or one of its viewport, of a node or of an edge.  With
it goes the path to the member. -/
inductive Workflow.HasUndeclared (ms : Table Json) : List Key → Prop
  | workflow {name : String} (h : name ∈ ms.names) (hname : name ∉ fields) :
    HasUndeclared ms [.name name]
  | viewport {inner : Table Json} {name : String}
    (hinner : ms.get? "viewport" = some (.object inner)) (h : name ∈ inner.names)
    (hname : name ∉ Viewport.fields) : HasUndeclared ms [.name "viewport", .name name]
  | node {items : List Json} {k : Nat} {inner : Table Json} {name : String}
    (hitems : ms.get? "nodes" = some (.array items)) (hinner : items[k]? = some (.object inner))
    (h : name ∈ inner.names) (hname : name ∉ Node.fields) :
    HasUndeclared ms [.name "nodes", .index k, .name name]
  | edge {items : List Json} {k : Nat} {inner : Table Json} {name : String}
    (hitems : ms.get? "edges" = some (.array items)) (hinner : items[k]? = some (.object inner))
    (h : name ∈ inner.names) (hname : name ∉ Edge.fields) :
    HasUndeclared ms [.name "edges", .index k, .name name]

section Strict

variable {ms : Table Json} {path : List Key}

/-- A workflow finds what its viewport, its nodes and its edges find, and its own undeclared
members. -/
theorem Workflow.finds_iff {i : Issue} :
    (read (.object ms)).Finds i ↔
      (field ms "version" readText "").Finds i ∨
      (field ms "viewport" (Schema.readOptional Viewport.read) none).Finds i ∨
      (field ms "nodes" (Schema.readEach .tuple Node.read) []).Finds i ∨
      (field ms "edges" (Schema.readEach .tuple Edge.read) []).Finds i ∨
      i ∈ Schema.undeclared fields ms := by
  show (ofMembers ms).Finds i ↔ _
  unfold ofMembers
  simp only [Checked.finds_withIssues_iff, Checked.finds_take_iff, or_assoc,
    iff_false_intro (Checked.not_finds_ok Workflow.mk), false_or]

/-- An undeclared member is told, with its path. -/
theorem Workflow.finds_of_hasUndeclared (h : HasUndeclared ms path) :
    (read (.object ms)).Finds ⟨path, .undeclared⟩ := by
  rw [finds_iff]
  cases h with
  | workflow h hname =>
    exact .inr (.inr (.inr (.inr (Schema.mem_undeclared_iff.mpr ⟨h, hname⟩))))
  | viewport hinner h hname =>
    refine .inr (.inl (Schema.finds_field hinner ?_))
    rw [Schema.readOptional_object]
    exact Checked.finds_map_iff.mpr (Schema.finds_undeclared h hname _)
  | node hitems hinner h hname =>
    refine .inr (.inr (.inl (Schema.finds_field hitems ?_)))
    exact Schema.finds_readEach_of_getElem? hinner (Schema.finds_undeclared h hname _)
  | edge hitems hinner h hname =>
    refine .inr (.inr (.inr (.inl (Schema.finds_field hitems ?_))))
    exact Schema.finds_readEach_of_getElem? hinner (Schema.finds_undeclared h hname _)

/-- What is found in the workflow of a job is found in the job. -/
theorem Job.finds_of_workflow {value : Table Json}
    (hworkflow : ms.get? "workflow" = some (.object value)) {fault : Fault}
    (h : (Workflow.read (.object value)).Finds ⟨path, fault⟩) :
    (read (.object ms)).Finds ⟨.name "workflow" :: path, fault⟩ := by
  have hfield : (field ms "workflow" (Schema.readOptional Workflow.read) none).Finds
      ⟨.name "workflow" :: path, fault⟩ := by
    refine Schema.finds_field hworkflow ?_
    rw [Schema.readOptional_object]
    exact Checked.finds_map_iff.mpr h
  show (ofMembers ms).Finds _
  unfold ofMembers
  simp only [Checked.finds_take_iff]
  exact .inl (.inl (.inr hfield))

end Strict

/-! ## Payloads -/

/-- A payload is refused as invalid, for an issue and perhaps for others. -/
def Payload.IsRefusedFor {α : Type} (subject : Subject α) (payload : Payload α) (i : Issue) :
    Prop :=
  ∃ error issues, payload.load subject = .error error ∧ error.toFailure.kind = .validation ∧
    error = .invalid subject.title subject.recordName issues ∧ i ∈ issues

theorem Payload.isRefusedFor_of_finds {α : Type} {subject : Subject α} {ms : Table Json} {i : Issue}
    (h : (subject.read (.object ms)).Finds i) :
    (Payload.value (.object ms)).IsRefusedFor subject i := by
  obtain ⟨issues, hread, hmem⟩ := h
  refine ⟨_, issues, ?_, rfl, rfl, hmem⟩
  show subject.ofValue (.object ms) = _
  rw [Subject.ofValue, hread]
  rfl

theorem Payload.load_object_eq_ok_iff {α : Type} {subject : Subject α} {ms : Table Json} {a : α} :
    (Payload.value (.object ms)).load subject = .ok a ↔ subject.read (.object ms) = .ok a := by
  show subject.ofValue (.object ms) = .ok a ↔ _
  rw [Subject.ofValue]
  cases subject.read (.object ms) <;> simp [Except.mapError]

/-- Members that a job, its dispatch or its target gains or loses without declaring them change
nothing.  A job with a workflow is accepted iff it is without and the workflow is by itself, and it
is then the same job with that workflow.  A workflow with an undeclared member anywhere is refused
for it, by itself and in a job. -/
theorem Job.lenient_and_workflow_strict :
    (∀ ms ms' : Table Json, Relation.EqvGen GainsMember ms ms' →
      (Payload.value (.object ms)).load subject = (Payload.value (.object ms')).load subject) ∧
    (∀ (ms value : Table Json) (j : Job), ms.get? "workflow" = some (.object value) →
      (Payload.value (.object (ms.without "workflow"))).load subject = .ok j →
        ∀ j', (Payload.value (.object ms)).load subject = .ok j' ↔
          ∃ w, (Payload.value (.object value)).load Workflow.subject = .ok w ∧
            j' = { j with workflow := some w }) ∧
    ∀ (value : Table Json) (path : List Key), Workflow.HasUndeclared value path →
      (Payload.value (.object value)).IsRefusedFor Workflow.subject ⟨path, .undeclared⟩ ∧
      ∀ ms : Table Json, ms.get? "workflow" = some (.object value) →
        (Payload.value (.object ms)).IsRefusedFor subject
          ⟨.name "workflow" :: path, .undeclared⟩ := by
  refine ⟨fun ms ms' h => ?_, fun ms value j hworkflow h j' => ?_, fun value path h => ?_⟩
  · have hread : subject.read (.object ms) = subject.read (.object ms') := ofMembers_eq_of_eqvGen h
    show subject.ofValue (.object ms) = subject.ofValue (.object ms')
    rw [Subject.ofValue, Subject.ofValue, hread]
  · rw [Payload.load_object_eq_ok_iff] at h ⊢
    simp only [Payload.load_object_eq_ok_iff]
    exact ofMembers_eq_ok_iff_of_workflow hworkflow h
  · have hfinds := Workflow.finds_of_hasUndeclared h
    exact ⟨Payload.isRefusedFor_of_finds hfinds, fun ms hworkflow =>
      Payload.isRefusedFor_of_finds (finds_of_workflow hworkflow hfinds)⟩

/-- A job as a store keeps it, with members of the store's own in three places. -/
def storedJob (own inDispatch inTarget : Table Json) : Table Json :=
  own ++ [("id", .string "7"), ("dispatch", .object (("channel", .string "ops") ::
    ("target", .object (("user_id", .string "u") :: inTarget)) :: inDispatch))]

/-- A workflow of one node, with a member more in the node. -/
def drawnWorkflow (inNode : Table Json) : Table Json :=
  [("version", .string "v1"), ("nodes", .array [.object (("id", .string "a") :: inNode)])]

/-- A job with a workflow. -/
def carryingJob (value : Table Json) : Table Json :=
  [("workflow", .object value), ("id", .string "7")]

theorem Job.lenient_and_workflow_strict_storedJob :
    (Relation.EqvGen GainsMember (storedJob [("owner", .null)] [("retries", .int 2)] [])
        (storedJob [] [] [("zone", .int 3)]) ∧
      (Payload.value (.object (storedJob [("owner", .null)] [("retries", .int 2)] []))).load
          subject =
        (Payload.value (.object (storedJob [] [] [("zone", .int 3)]))).load subject) ∧
    ((carryingJob (drawnWorkflow [])).get? "workflow" = some (.object (drawnWorkflow [])) ∧
      (Payload.value (.object ((carryingJob (drawnWorkflow [])).without "workflow"))).load subject =
        .ok { id := "7" } ∧
      ∀ j', (Payload.value (.object (carryingJob (drawnWorkflow [])))).load subject = .ok j' ↔
        ∃ w, (Payload.value (.object (drawnWorkflow []))).load Workflow.subject = .ok w ∧
          j' = { id := "7", workflow := some w }) ∧
    Workflow.HasUndeclared (drawnWorkflow [("colour", .string "red")])
        [.name "nodes", .index 0, .name "colour"] ∧
      (Payload.value (.object (drawnWorkflow [("colour", .string "red")]))).IsRefusedFor
        Workflow.subject ⟨[.name "nodes", .index 0, .name "colour"], .undeclared⟩ ∧
      (Payload.value (.object (carryingJob (drawnWorkflow [("colour", .string "red")])))
        ).IsRefusedFor subject
          ⟨[.name "workflow", .name "nodes", .index 0, .name "colour"], .undeclared⟩ := by
  have hown : GainsMember (storedJob [] [("retries", .int 2)] [])
      (storedJob [("owner", .null)] [("retries", .int 2)] []) :=
    .inl (.member [] _ .null (by decide))
  have hdispatch : GainsMember (storedJob [] [] []) (storedJob [] [("retries", .int 2)] []) :=
    .inr (.member [("id", .string "7")] []
      (.inl (.member [("channel", .string "ops"), ("target", .object [("user_id", .string "u")])] []
        (.int 2) (by decide))))
  have htarget : GainsMember (storedJob [] [] []) (storedJob [] [] [("zone", .int 3)]) :=
    .inr (.member [("id", .string "7")] [] (.inr (.member [("channel", .string "ops")] []
      (.member [("user_id", .string "u")] [] (.int 3) (by decide)))))
  have hgains : Relation.EqvGen GainsMember
      (storedJob [("owner", .null)] [("retries", .int 2)] [])
      (storedJob [] [] [("zone", .int 3)]) :=
    .trans _ _ _ (.symm _ _ (.rel _ _ hown)) (.trans _ _ _ (.symm _ _ (.rel _ _ hdispatch))
      (.rel _ _ htarget))
  have hundeclared : Workflow.HasUndeclared (drawnWorkflow [("colour", .string "red")])
      [.name "nodes", .index 0, .name "colour"] :=
    .node rfl rfl (by decide) (by decide)
  have hall := lenient_and_workflow_strict
  exact ⟨⟨hgains, hall.1 _ _ hgains⟩, ⟨rfl, rfl, hall.2.1 _ _ { id := "7" } rfl rfl⟩, hundeclared,
    (hall.2.2 _ _ hundeclared).1, (hall.2.2 _ _ hundeclared).2 _ rfl⟩

end JobChain
