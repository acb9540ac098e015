import JobChain.Plan.Normal
import JobChain.Proofs.Text.Lowercase
import Mathlib.Data.List.Basic
import Mathlib.Data.List.TakeWhile

/-!
# Texts in normal form

A text in normal form has been trimmed and then lowercased.  Doing both again changes nothing.  Only
one thing could go wrong: lowercasing might bring a blank to an end of the text, which the second
trimming would take away.  But the lowercase form of a character is never empty, and it holds a
blank only if the character is one.

* `trim_eq_empty_iff`: which texts trimming leaves nothing of.
* `IsTrimmed`: a text without blanks at its ends, with `isTrimmed_trimChars` and
  `IsTrimmed.trimChars_eq`, and `IsTrimmed.trimChars_append` for blanks around it.
* `IsTrimmed.lowerChars`: lowercasing keeps a text trimmed.
* `normal_normal`: bringing a text into normal form is idempotent.
-/

namespace JobChain.Text

/-! ## Trimmed texts -/

/-- A text that neither begins nor ends with a blank. -/
structure IsTrimmed (cs : List Char) : Prop where
  first : ∀ c ∈ cs.head?, isBlank c = false
  last : ∀ c ∈ cs.getLast?, isBlank c = false

section Strip

variable {α : Type} {p : α → Bool} {l : List α} {a : α}

/-- What is left of a list does not begin with a member of the kind that has been dropped. -/
theorem eq_false_of_mem_head?_dropWhile (h : a ∈ (l.dropWhile p).head?) : p a = false := by
  have hfirst := List.head?_dropWhile_not p l
  rw [Option.mem_def] at h
  rw [h] at hfirst
  exact hfirst

theorem dropWhile_eq_self (h : ∀ a ∈ l.head?, p a = false) : l.dropWhile p = l := by
  cases l with
  | nil => rfl
  | cons a l => exact dropWhile_cons_of_neg p (h a rfl)

theorem dropEndWhile_eq_self (h : ∀ a ∈ l.getLast?, p a = false) : dropEndWhile p l = l := by
  have hreverse : l.reverse.dropWhile p = l.reverse := by
    refine dropWhile_eq_self fun a ha => h a ?_
    rwa [List.head?_reverse] at ha
  rw [dropEndWhile, hreverse, List.reverse_reverse]

theorem eq_false_of_mem_head?_strip (h : a ∈ (strip p l).head?) : p a = false := by
  obtain ⟨tail, htail⟩ := dropEndWhile_isPrefix p (l.dropWhile p)
  refine eq_false_of_mem_head?_dropWhile (l := l) ?_
  have hhead : (dropEndWhile p (l.dropWhile p)).head? = some a := h
  rw [← htail, Option.mem_def, List.head?_append, hhead]
  rfl

theorem eq_false_of_mem_getLast?_strip (h : a ∈ (strip p l).getLast?) : p a = false := by
  rw [strip, dropEndWhile, List.getLast?_reverse] at h
  exact eq_false_of_mem_head?_dropWhile h

/-- Stripping leaves nothing iff there is nothing else. -/
theorem strip_eq_nil_iff : strip p l = [] ↔ ∀ a ∈ l, p a = true := by
  rw [strip, dropEndWhile, List.reverse_eq_nil_iff, List.dropWhile_eq_nil_iff]
  simp only [List.mem_reverse]
  constructor
  · intro h a ha
    rw [← List.takeWhile_append_dropWhile (p := p) (l := l), List.mem_append] at ha
    rcases ha with ha | ha
    · exact List.mem_takeWhile_imp ha
    · exact h a ha
  · intro h a ha
    exact h a ((List.dropWhile_sublist p).mem ha)

end Strip

/-- Trimming leaves nothing iff a text holds blanks only. -/
theorem trim_eq_empty_iff {s : String} : trim s = "" ↔ ∀ c ∈ s.toList, isBlank c = true := by
  rw [← String.toList_inj, toList_trim, trimChars, String.toList_empty, strip_eq_nil_iff]

/-- Trimming leaves a trimmed text. -/
theorem isTrimmed_trimChars (cs : List Char) : IsTrimmed (trimChars cs) where
  first _ h := eq_false_of_mem_head?_strip h
  last _ h := eq_false_of_mem_getLast?_strip h

/-- Trimming leaves a trimmed text as it is. -/
theorem IsTrimmed.trimChars_eq {cs : List Char} (h : IsTrimmed cs) : trimChars cs = cs := by
  rw [trimChars, strip, dropWhile_eq_self h.first, dropEndWhile_eq_self h.last]

/-- Trimming takes away what blanks have been put around a trimmed text. -/
theorem IsTrimmed.trimChars_append {lead cs tail : List Char} (h : IsTrimmed cs) (hne : cs ≠ [])
    (hlead : ∀ c ∈ lead, isBlank c = true) (htail : ∀ c ∈ tail, isBlank c = true) :
    trimChars (lead ++ (cs ++ tail)) = cs := by
  have hfront : (cs ++ tail).dropWhile isBlank = cs ++ tail := by
    refine dropWhile_eq_self fun c hc => h.first c ?_
    rwa [List.head?_append_of_ne_nil _ hne] at hc
  have hback : cs.reverse.dropWhile isBlank = cs.reverse := by
    refine dropWhile_eq_self fun c hc => h.last c ?_
    rwa [List.head?_reverse] at hc
  have htail' : ∀ c ∈ tail.reverse, isBlank c = true := fun c hc =>
    htail c (List.mem_reverse.mp hc)
  rw [trimChars, strip, List.dropWhile_append_of_pos hlead, hfront, dropEndWhile,
    List.reverse_append, List.dropWhile_append_of_pos htail', hback, List.reverse_reverse]

/-! ## Lowercasing trimmed texts -/

/-- The images of the runs of the table miss all blanks. -/
theorem imagesMiss_blankRanges :
    blankRanges.all (fun range => imagesMiss (.ofRange range)) = true := by
  decide +kernel

theorem lowerAt_ne_nil (before : Bool) (c : Char) (after : List Char) :
    lowerAt before c after ≠ [] := by
  unfold lowerAt lowerChar
  split_ifs <;> exact List.cons_ne_nil _ _

/-- Lowercasing leaves nothing only of the empty text. -/
theorem lower_eq_empty_iff {s : String} : lower s = "" ↔ s = "" := by
  rw [← String.toList_inj, ← String.toList_inj, toList_lower, String.toList_empty]
  cases s.toList with
  | nil => rfl
  | cons c cs => simp [lowerChars_cons, lowerAt_ne_nil]

/-- The code point of a lowercase form is blank only if the character is. -/
theorem inRanges_lowerCode {n : Nat} (h : inRanges blankRanges n = false) :
    inRanges blankRanges (lowerCode n) = false := by
  rw [← Bool.not_eq_true, inRanges_iff] at h ⊢
  rintro ⟨range, hrange, hcovered⟩
  have hout : (CaseRun.ofRange range).covers n = false := by
    rw [← Bool.not_eq_true, CaseRun.covers_ofRange_iff]
    exact fun hn => h ⟨range, hrange, hn⟩
  have hmiss := List.all_eq_true.mp imagesMiss_blankRanges range hrange
  have hcode := covers_lowerCode_eq_false hmiss hout
  rw [CaseRun.covers_ofRange_iff.mpr hcovered] at hcode
  cases hcode

/-- The lowercase form of a character holds a blank only if the character is one. -/
theorem isBlank_of_mem_lowerAt {before : Bool} {c d : Char} {after : List Char}
    (hc : isBlank c = false) (h : d ∈ lowerAt before c after) : isBlank d = false := by
  unfold lowerAt lowerChar at h
  split_ifs at h with hsigma hfinal hdotted
  · rw [List.mem_singleton.mp h]
    decide
  · rw [List.mem_singleton.mp h]
    decide
  · simp only [List.mem_cons, List.not_mem_nil, or_false] at h
    rcases h with rfl | rfl
    · decide
    · decide
  · rw [List.mem_singleton.mp h, isBlank, toNat_ofNat_lowerCode]
    exact inRanges_lowerCode hc

/-- The lowercase form of a text that ends without a blank does, too. -/
theorem isBlank_of_mem_getLast?_lowerChars {before : Bool} {cs : List Char} {d : Char}
    (hlast : ∀ c ∈ cs.getLast?, isBlank c = false) (h : d ∈ (lowerChars before cs).getLast?) :
    isBlank d = false := by
  induction cs generalizing before with
  | nil => cases h
  | cons c cs ih =>
    rw [lowerChars_cons] at h
    cases cs with
    | nil =>
      rw [lowerChars_nil, List.append_nil] at h
      exact isBlank_of_mem_lowerAt (hlast c rfl) (List.mem_of_mem_getLast? h)
    | cons c' cs =>
      have hne : lowerChars (casedAfter before c) (c' :: cs) ≠ [] := by
        rw [lowerChars_cons]
        exact List.append_ne_nil_of_left_ne_nil (lowerAt_ne_nil _ _ _) _
      rw [List.getLast?_append_of_ne_nil _ hne] at h
      refine ih (fun e he => hlast e ?_) h
      rwa [List.getLast?_cons_cons]

/-- Lowercasing keeps a text trimmed. -/
theorem IsTrimmed.lowerChars {cs : List Char} (h : IsTrimmed cs) (before : Bool) :
    IsTrimmed (lowerChars before cs) where
  first d hd := by
    cases cs with
    | nil => cases hd
    | cons c cs =>
      rw [lowerChars_cons, List.head?_append_of_ne_nil _ (lowerAt_ne_nil _ _ _)] at hd
      exact isBlank_of_mem_lowerAt (h.first c rfl) (List.mem_of_mem_head? hd)
  last _ hd := isBlank_of_mem_getLast?_lowerChars h.last hd

/-- A text in normal form is trimmed. -/
@[simp] theorem trim_normal (s : String) : trim (normal s) = normal s := by
  have htrimmed := (isTrimmed_trimChars s.toList).lowerChars false
  rw [normal, trim, toList_lower, toList_trim, htrimmed.trimChars_eq, lower, toList_trim]

/-- Bringing a text into normal form is idempotent. -/
@[simp] theorem normal_normal (s : String) : normal (normal s) = normal s := by
  rw [normal, trim_normal, normal, lower_lower]

end JobChain.Text
