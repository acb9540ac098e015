import JobChain.Payload
import JobChain.Proofs.Json.Writing

/-!
# One object in several forms

An object may arrive as a value, as its text, or as the bytes of the text.  The bytes may be in any
encoding, with its mark in front or without: the text begins with two characters of ASCII, which
gives the encoding away.  In every form the outcome is that of the value, be it a record or an
error.

* `Payload.FormsAgree`: the forms of an object come to the same.
* `Payload.formsAgree_of_isPlain`: they do for every kind of record.
* `Payload.forms_of_object_agree`: so they do for workflows and for jobs.
-/

namespace JobChain.Payload

open Text (Encoding)

variable {α : Type} {subject : Subject α} {members : Table Json}

/-- The text of an object, as bytes in its own encoding, is loaded as the object is. -/
theorem load_bytes_of_decodeDetected (h : (Json.object members).IsPlain) {content : List UInt8}
    (hcontent : Text.decodeDetected content = .ok (Json.chars (.object members))) :
    (bytes content).load subject = (value (.object members)).load subject := by
  simp only [load, hcontent, Json.readText_chars h, Except.mapError, Subject.ofRead]

/-- So is the text. -/
theorem load_text (h : (Json.object members).IsPlain) :
    (value (.string (Json.write (.object members)))).load subject =
      (value (.object members)).load subject := by
  simp only [load, Json.read_write h, Subject.ofRead]

/-- An object comes to the same as a value, as text, and as bytes in any encoding, with a mark and
without. -/
def FormsAgree (subject : Subject α) (members : Table Json) : Prop :=
  let text := Json.write (.object members)
  let outcome := (value (.object members)).load subject
  (value (.string text)).load subject = outcome ∧
    ∀ e : Encoding, (bytes (e.encode text.toList)).load subject = outcome ∧
      (bytes (e.mark ++ e.encode text.toList)).load subject = outcome

theorem formsAgree_of_isPlain (h : (Json.object members).IsPlain) : FormsAgree subject members := by
  have hfront := Json.beginsAscii_chars_object members
  have htext : (Json.write (.object members)).toList = Json.chars (.object members) :=
    String.toList_ofList
  refine ⟨load_text h, fun e => ?_⟩
  rw [htext]
  exact ⟨load_bytes_of_decodeDetected h (Text.decodeDetected_encode e hfront),
    load_bytes_of_decodeDetected h (Text.decodeDetected_mark_append e hfront)⟩

/-- Workflows and jobs are loaded alike from all forms of an object, of any size and depth, that has
no floating-point number in it and repeats no name. -/
theorem forms_of_object_agree {members : Table Json} (h : (Json.object members).IsPlain) :
    FormsAgree Workflow.subject members ∧ FormsAgree Job.subject members :=
  ⟨formsAgree_of_isPlain h, formsAgree_of_isPlain h⟩

/-- An object with characters that are escaped, in one unit and in two, with integers of both signs,
and with values inside values. -/
def notedJob : Table Json :=
  [("id", .string "\"7\"\n"), ("name", .string "né𝄞"), ("enabled", .bool true), ("workflow", .null),
    ("meta", .object [("sizes", .array [.int (-12), .int (10 ^ 30), .array [], .object []])])]

theorem forms_of_object_agree_notedJob :
    (Json.object notedJob).IsPlain ∧
      FormsAgree Workflow.subject notedJob ∧ FormsAgree Job.subject notedJob :=
  have hplain : (Json.object notedJob).IsPlain := by decide
  ⟨hplain, forms_of_object_agree hplain⟩

example : Json.write (.object notedJob) =
    "\x7b\"id\": \"\\\"7\\\"\\n\", \"name\": \"n\\u00e9\\ud834\\udd1e\", \"enabled\": true, " ++
      "\"workflow\": null, \"meta\": \x7b\"sizes\": " ++
      "[-12, 1000000000000000000000000000000, [], \x7b\x7d]\x7d\x7d" := by
  decide +kernel

end JobChain.Payload
