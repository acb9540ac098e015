import JobChain.Condition.Writer
import JobChain.Proofs.Condition.Grammar

/-!
# Values that conditions can be written with

There is no escape inside a literal, and the three forms of literals overlap, so not every text is
the value of a condition.  A text between marks stands for its inside, so a value without double
marks or without single ones can be put between those.  A value that holds marks of both kinds
stands for itself only, which it does if it holds no blank and is not between marks already.  No
other value can be written.  The form that the writer chooses is always the one that is read back,
in whatever letters the name of the aspect is written and however many blanks stand around the
parts.

* `IsExpressible`: the values that some literal stands for, with `StandsFor.isExpressible`.
* `standsFor_literalOf`: the literal that is written for such a value stands for it.
* `Spelling`: ways to write a condition, and `Condition.spelled`.
* `Condition.read_spelled`: all of them are read back.
* `Condition.exists_read_iff_isExpressible`: which conditions can be written, and that they are read
  back.
-/

namespace JobChain

/-! ## Values and their literals -/

/-- A text between two marks of one kind that does not hold the mark inside. -/
def IsMarked (literal : List Char) : Prop :=
  ∃ mark inner, (mark = '"' ∨ mark = '\'') ∧ IsBetween mark inner literal

/-- A value without double marks, without single marks, or without blanks and not between marks. -/
def IsExpressible (value : List Char) : Prop :=
  '"' ∉ value ∨ '\'' ∉ value ∨ (∀ c ∈ value, Text.isBlank c = false) ∧ ¬IsMarked value

instance (cs : List Char) : Decidable (IsSpace cs) :=
  List.decidableBAll (fun c => Text.isBlank c = true) cs

theorem isMarked_iff {literal : List Char} :
    IsMarked literal ↔
      (insideMarks? '"' literal).isSome = true ∨ (insideMarks? '\'' literal).isSome = true := by
  simp only [IsMarked, Option.isSome_iff_exists, insideMarks?_eq_some_iff, or_and_right,
    exists_and_left, exists_or, exists_eq_left]

instance (literal : List Char) : Decidable (IsMarked literal) := decidable_of_iff' _ isMarked_iff

instance (value : List Char) : Decidable (IsExpressible value) :=
  have : Decidable (∀ c ∈ value, Text.isBlank c = false) :=
    List.decidableBAll (fun c => Text.isBlank c = false) value
  inferInstanceAs (Decidable (_ ∨ _ ∨ _ ∧ _))

section Literals

variable {value literal : List Char}

theorem literalOf_of_notMem_double (h : '"' ∉ value) :
    IsBetween '"' value (literalOf value) where
  noMark := h
  chars := by
    rw [literalOf, if_pos (by simpa using h)]
    rfl

theorem literalOf_of_notMem_single (hdouble : '"' ∈ value) (h : '\'' ∉ value) :
    IsBetween '\'' value (literalOf value) where
  noMark := h
  chars := by
    rw [literalOf, if_neg (by simpa using hdouble), if_pos (by simpa using h)]
    rfl

theorem literalOf_of_mem (hdouble : '"' ∈ value) (hsingle : '\'' ∈ value) :
    literalOf value = value := by
  rw [literalOf, if_neg (by simpa using hdouble), if_neg (by simpa using hsingle)]

/-- The literal of an expressible value stands for it. -/
theorem standsFor_literalOf (h : IsExpressible value) : StandsFor (literalOf value) value := by
  by_cases hdouble : '"' ∈ value
  · by_cases hsingle : '\'' ∈ value
    · obtain ⟨hblank, hmarked⟩ := (h.resolve_left (not_not_intro hdouble)).resolve_left
        (not_not_intro hsingle)
      rw [literalOf_of_mem hdouble hsingle]
      exact .bare (fun inner hinner => hmarked ⟨_, inner, .inl rfl, hinner⟩)
        (fun inner hinner => hmarked ⟨_, inner, .inr rfl, hinner⟩) (List.ne_nil_of_mem hdouble)
        hblank
    · exact .single (literalOf_of_notMem_single hdouble hsingle)
  · exact .double (literalOf_of_notMem_double hdouble)

/-- Whatever a literal stands for is expressible. -/
theorem StandsFor.isExpressible (h : StandsFor literal value) : IsExpressible value := by
  cases h with
  | double h => exact .inl h.noMark
  | single h => exact .inr (.inl h.noMark)
  | bare hnotDouble hnotSingle _ hblank =>
    refine .inr (.inr ⟨hblank, ?_⟩)
    rintro ⟨mark, inner, rfl | rfl, hinner⟩
    · exact hnotDouble inner hinner
    · exact hnotSingle inner hinner

/-- No literal ends with a blank. -/
theorem StandsFor.isBlank_of_mem_getLast? (h : StandsFor literal value) :
    ∀ c ∈ literal.getLast?, Text.isBlank c = false := by
  have hmark (mark : Char) (inner : List Char) (h : IsBetween mark inner literal) :
      literal.getLast? = some mark := by
    rw [h.chars, ← List.cons_append, List.getLast?_concat]
  cases h with
  | double h =>
    rw [hmark _ _ h]
    rintro _ ⟨⟩
    decide
  | single h =>
    rw [hmark _ _ h]
    rintro _ ⟨⟩
    decide
  | bare _ _ _ noBlank => exact fun c hc => noBlank c (List.mem_of_mem_getLast? hc)

theorem StandsFor.literal_ne_nil (h : StandsFor literal value) : literal ≠ [] := by
  cases h with
  | double h =>
    rw [h.chars]
    exact List.cons_ne_nil _ _
  | single h =>
    rw [h.chars]
    exact List.cons_ne_nil _ _
  | bare _ _ hne _ => exact hne

end Literals

/-! ## Names in letters of either case -/

section Names

variable {c : Char} {a : Aspect}

theorem toNat_lt_of_isLetter (h : IsLetter c ∨ c = '_') : c.toNat < 0x80 := by
  have hcode (a b : Char) : a ≤ b ↔ a.toNat ≤ b.toNat := Iff.rfl
  rcases h with h | rfl
  · simp only [IsLetter, hcode, Char.reduceToNat] at h
    omega
  · decide

/-- The characters that lowercase to a letter or an underscore are letters or underscores. -/
theorem isLetter_of_toLower (h : IsLetter c.toLower ∨ c.toLower = '_') : IsLetter c ∨ c = '_' := by
  by_cases hupper : 'A' ≤ c ∧ c ≤ 'Z'
  · exact .inl (.inl hupper)
  · have hsame : c.toLower = c := dif_neg hupper
    rwa [hsame] at h

/-- The names of aspects consist of letters and underscores. -/
theorem Aspect.isLetter_of_mem_name (a : Aspect) : ∀ c ∈ a.name.toList, IsLetter c ∨ c = '_' := by
  have hstart : a.name.toList.all isIdentifierStart = true := by
    cases a <;> decide
  exact fun c hc => isIdentifierStart_iff.mp (List.all_eq_true.mp hstart c hc)

end Names

/-- A way to write a condition on an aspect: the name of the aspect in letters of either case, and
the blanks around the parts. -/
structure Spelling (a : Aspect) where
  lead : List Char
  identifier : List Char
  before : List Char
  after : List Char
  tail : List Char
  toLower_identifier : identifier.map Char.toLower = a.name.toList
  lead_isSpace : IsSpace lead
  before_isSpace : IsSpace before
  after_isSpace : IsSpace after
  tail_isSpace : IsSpace tail

namespace Spelling

variable {a : Aspect} (s : Spelling a)

theorem isLetter_of_mem_identifier : ∀ c ∈ s.identifier, IsLetter c ∨ c = '_' := by
  intro c hc
  refine isLetter_of_toLower (a.isLetter_of_mem_name c.toLower ?_)
  rw [← s.toLower_identifier]
  exact List.mem_map_of_mem hc

theorem isIdentifier : IsIdentifier s.identifier := by
  have hletter := s.isLetter_of_mem_identifier
  cases hidentifier : s.identifier with
  | nil =>
    have hname := s.toLower_identifier
    rw [hidentifier] at hname
    cases a <;> cases hname
  | cons c cs =>
    rw [hidentifier] at hletter
    obtain ⟨hc, hcs⟩ := List.forall_mem_cons.mp hletter
    exact ⟨hc, fun d hd => (hcs d hd).imp_right .inl⟩

/-- The identifier writes the name of the aspect. -/
theorem lower_identifier : Text.lower (String.ofList s.identifier) = a.name := by
  rw [Text.lower, String.toList_ofList, Text.lowerChars_of_ascii
    (fun c hc => toNat_lt_of_isLetter (s.isLetter_of_mem_identifier c hc)), s.toLower_identifier,
    String.ofList_toList]

/-- The name as it is and single spaces between the parts. -/
def plain (a : Aspect) : Spelling a where
  lead := []
  identifier := a.name.toList
  before := [' ']
  after := [' ']
  tail := []
  toLower_identifier := by cases a <;> decide
  lead_isSpace := by decide
  before_isSpace := by decide
  after_isSpace := by decide
  tail_isSpace := by decide

end Spelling

/-! ## Written conditions -/

theorem IsIdentifier.ne_nil {cs : List Char} (h : IsIdentifier cs) : cs ≠ [] := by
  cases h
  exact List.cons_ne_nil _ _

namespace Parts

variable (d : Parts)

theorem chars_ne_nil : d.chars ≠ [] :=
  List.append_ne_nil_of_left_ne_nil d.isIdentifier.ne_nil _

/-- A text with parts has no blanks at its ends: it begins with an identifier and ends with a
literal. -/
theorem isTrimmed : Text.IsTrimmed d.chars where
  first c hc := by
    rw [chars, List.head?_append_of_ne_nil _ d.isIdentifier.ne_nil] at hc
    have hpart := d.isIdentifier.isIdentifierPart_of_mem c (List.mem_of_mem_head? hc)
    rw [Bool.eq_false_iff]
    intro hblank
    rw [isIdentifierPart_eq_false_of_isBlank hblank] at hpart
    cases hpart
  last c hc := by
    have hchars : d.chars =
        (d.identifier ++ (d.before ++ (d.comparison.sign.toList ++ d.after))) ++ d.literal := by
      simp only [chars, fromSign, List.append_assoc]
    rw [hchars, List.getLast?_append_of_ne_nil _ d.standsFor.literal_ne_nil] at hc
    exact d.standsFor.isBlank_of_mem_getLast? c hc

end Parts

namespace Condition

/-- The text of a condition in a spelling. -/
def spelled (c : Condition) (s : Spelling c.aspect) : String :=
  String.ofList (s.lead ++ (s.identifier ++ (s.before ++
    (c.comparison.sign.toList ++ (s.after ++ literalOf c.value.toList))) ++ s.tail))

theorem write_eq_spelled (c : Condition) : c.write = c.spelled (.plain c.aspect) := by
  rw [← String.toList_inj]
  simp [write, spelled, Spelling.plain]

/-- A condition with an expressible value is read back from all its spellings. -/
theorem read_spelled (c : Condition) (h : IsExpressible c.value.toList) (s : Spelling c.aspect) :
    Condition.read (c.spelled s) = .ok c := by
  let d : Parts :=
    { identifier := s.identifier
      before := s.before
      comparison := c.comparison
      after := s.after
      literal := literalOf c.value.toList
      value := c.value.toList
      isIdentifier := s.isIdentifier
      before_isSpace := s.before_isSpace
      after_isSpace := s.after_isSpace
      standsFor := standsFor_literalOf h }
  have hchars : d.chars = (Text.trim (c.spelled s)).toList := by
    rw [Text.toList_trim, spelled, String.toList_ofList]
    exact (d.isTrimmed.trimChars_append d.chars_ne_nil s.lead_isSpace s.tail_isSpace).symm
  have hname : d.name = c.aspect.name := s.lower_identifier
  rw [Condition.read_of_parts hchars, hname, Aspect.ofName?_name]
  simp [d]

/-- The value of a condition that can be read is expressible. -/
theorem isExpressible_of_read {raw : String} {c : Condition} (h : Condition.read raw = .ok c) :
    IsExpressible c.value.toList := by
  cases read_eq_iff_reads.mp h with
  | condition d hd a hname =>
    rw [String.toList_ofList]
    exact d.standsFor.isExpressible

end Condition

/-- There is a text for a condition iff its value is expressible, and then all spellings of the
condition are such texts, the one with single spaces among them. -/
theorem Condition.exists_read_iff_isExpressible (c : Condition) :
    ((∃ raw, Condition.read raw = .ok c) ↔ IsExpressible c.value.toList) ∧
    (IsExpressible c.value.toList → ∀ s : Spelling c.aspect, Condition.read (c.spelled s) = .ok c) ∧
    (Condition.read c.write = .ok c ↔ IsExpressible c.value.toList) := by
  have hspelled (h : IsExpressible c.value.toList) (s : Spelling c.aspect) :
      Condition.read (c.spelled s) = .ok c := read_spelled c h s
  have hwrite (h : IsExpressible c.value.toList) : Condition.read c.write = .ok c := by
    rw [write_eq_spelled]
    exact hspelled h _
  exact ⟨⟨fun ⟨_, h⟩ => isExpressible_of_read h, fun h => ⟨_, hwrite h⟩⟩, hspelled,
    isExpressible_of_read, hwrite⟩

/-- The name in letters of both cases, and blanks of several kinds. -/
def mixedSpelling : Spelling .jobName where
  lead := ['\t', ' ']
  identifier := "JOB_Name".toList
  before := []
  after := ['\n']
  tail := [' ']
  toLower_identifier := by decide
  lead_isSpace := by decide
  before_isSpace := by decide
  after_isSpace := by decide
  tail_isSpace := by decide

/-- A value with marks of both kinds is written bare, unless it holds a blank. -/
theorem Condition.exists_read_iff_isExpressible_bothMarks :
    (IsExpressible "5'10\"".toList ∧
      Condition.read "\t JOB_Name!=\n5'10\" " = .ok ⟨.jobName, .unequal, "5'10\""⟩) ∧
    ¬∃ raw, Condition.read raw = .ok ⟨.jobName, .equal, "5' 10\""⟩ := by
  have hbare : IsExpressible "5'10\"".toList := by decide
  have hblank : ¬IsExpressible "5' 10\"".toList := by decide
  have htext : spelled ⟨.jobName, .unequal, "5'10\""⟩ mixedSpelling =
      "\t JOB_Name!=\n5'10\" " := by
    decide
  refine ⟨⟨hbare, ?_⟩, fun h => hblank ?_⟩
  · rw [← htext]
    exact (exists_read_iff_isExpressible ⟨.jobName, .unequal, "5'10\""⟩).2.1 hbare mixedSpelling
  · exact (exists_read_iff_isExpressible ⟨.jobName, .equal, "5' 10\""⟩).1.mp h

end JobChain
