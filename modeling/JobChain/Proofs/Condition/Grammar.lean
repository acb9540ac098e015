import JobChain.Proofs.Condition.Scanning

/-!
# The grammar of conditions

The scanner of conditions goes through a text once, from left to right, and never goes back.  The
grammar only says what a condition consists of: an identifier, a comparison and a literal, with
blanks between them.  Both agree, because the first character of each part ends the part before it:
no blank and no sign continues an identifier, and no sign and no literal begins with a blank.  For
the same reason a text has its parts in one way only.

* `IsIdentifier`, `StandsFor`: identifiers, and literals with what they stand for.
* `Parts`: the parts of a condition, each well-formed, with `Parts.chars`.
* `splitCondition?_eq_some_iff`: the scanner splits a text iff it has parts, and then into these.
* `Parts.eq_of_chars_eq`: no text has its parts in two ways.
* `Reads`: what the grammar says about a text, and `read_eq_iff_reads`: the reader comes to it.
* `Condition.read_agrees_with_grammar`: which texts are conditions and of which kind, and why the
  others are none.
-/

namespace JobChain

/-! ## The grammar -/

/-- An ASCII letter. -/
def IsLetter (c : Char) : Prop := 'A' ≤ c ∧ c ≤ 'Z' ∨ 'a' ≤ c ∧ c ≤ 'z'

/-- An ASCII digit. -/
def IsDigit (c : Char) : Prop := '0' ≤ c ∧ c ≤ '9'

/-- A letter or an underscore, followed by letters, underscores and digits. -/
inductive IsIdentifier : List Char → Prop
  | intro {c : Char} {cs : List Char} (first : IsLetter c ∨ c = '_')
      (others : ∀ d ∈ cs, IsLetter d ∨ d = '_' ∨ IsDigit d) : IsIdentifier (c :: cs)

/-- A list of blanks, which may be empty. -/
def IsSpace (cs : List Char) : Prop := ∀ c ∈ cs, Text.isBlank c = true

/-- A literal is a text between two marks that does not hold the mark. -/
structure IsBetween (mark : Char) (inner literal : List Char) : Prop where
  noMark : mark ∉ inner
  chars : literal = mark :: (inner ++ [mark])

/-- What a literal stands for: for the text between its marks, or for itself if it is not between
marks.  In that case it is not empty and holds no blank. -/
inductive StandsFor (literal : List Char) : List Char → Prop
  | double {inner : List Char} (h : IsBetween '"' inner literal) : StandsFor literal inner
  | single {inner : List Char} (h : IsBetween '\'' inner literal) : StandsFor literal inner
  | bare (notDouble : ∀ inner, ¬ IsBetween '"' inner literal)
      (notSingle : ∀ inner, ¬ IsBetween '\'' inner literal) (nonempty : literal ≠ [])
      (noBlank : ∀ c ∈ literal, Text.isBlank c = false) : StandsFor literal literal

/-- The parts of a condition, with the value that its literal stands for. -/
@[ext] structure Parts where
  identifier : List Char
  before : List Char
  comparison : Comparison
  after : List Char
  literal : List Char
  value : List Char
  isIdentifier : IsIdentifier identifier
  before_isSpace : IsSpace before
  after_isSpace : IsSpace after
  standsFor : StandsFor literal value

namespace Parts

/-- The text after the first blanks. -/
def fromSign (d : Parts) : List Char := d.comparison.sign.toList ++ (d.after ++ d.literal)

/-- The text that has these parts. -/
def chars (d : Parts) : List Char := d.identifier ++ (d.before ++ d.fromSign)

/-- The name that the identifier writes. -/
def name (d : Parts) : String := Text.lower (String.ofList d.identifier)

end Parts

/-! ## Lists cut where a property ends -/

section Cut

variable {α : Type} {p : α → Bool} {cs front front' back back' : List α}

/-- Cutting a list where its members cease to have a property gives the two lists that it consists
of, if the first has the property throughout and the second does not begin with it. -/
theorem takeWhile_and_dropWhile_eq_iff :
    cs.takeWhile p = front ∧ cs.dropWhile p = back ↔
      cs = front ++ back ∧ (∀ a ∈ front, p a = true) ∧ ∀ a ∈ back.head?, p a = false := by
  constructor
  · rintro ⟨rfl, rfl⟩
    refine ⟨List.takeWhile_append_dropWhile.symm, ?_, ?_⟩
    · exact List.all_eq_true.mp List.all_takeWhile
    · intro a ha
      exact Text.eq_false_of_mem_head?_dropWhile ha
  · rintro ⟨rfl, hfront, hback⟩
    rw [List.takeWhile_append_of_pos hfront, List.dropWhile_append_of_pos hfront]
    have hdrop := Text.dropWhile_eq_self hback
    have htake : back.takeWhile p = [] := by
      have hall := List.takeWhile_append_dropWhile (p := p) (l := back)
      rw [hdrop] at hall
      exact List.append_left_eq_self.mp hall
    rw [htake, hdrop, List.append_nil]
    exact ⟨rfl, rfl⟩

/-- A list consists of two such lists in one way only. -/
theorem append_inj_of_boundary (h : front ++ back = front' ++ back')
    (hfront : ∀ a ∈ front, p a = true) (hback : ∀ a ∈ back.head?, p a = false)
    (hfront' : ∀ a ∈ front', p a = true) (hback' : ∀ a ∈ back'.head?, p a = false) :
    front = front' ∧ back = back' := by
  obtain ⟨htake, hdrop⟩ := takeWhile_and_dropWhile_eq_iff.mpr ⟨rfl, hfront, hback⟩
  obtain ⟨htake', hdrop'⟩ := takeWhile_and_dropWhile_eq_iff.mpr ⟨h, hfront', hback'⟩
  exact ⟨htake.symm.trans htake', hdrop.symm.trans hdrop'⟩

end Cut

/-! ## Characters -/

section Characters

variable {c : Char}

theorem isIdentifierStart_iff : isIdentifierStart c = true ↔ IsLetter c ∨ c = '_' := by
  simp [isIdentifierStart, IsLetter]

theorem isIdentifierPart_iff :
    isIdentifierPart c = true ↔ IsLetter c ∨ c = '_' ∨ IsDigit c := by
  rw [isIdentifierPart, Bool.or_eq_true, isIdentifierStart_iff, or_assoc]
  simp [IsDigit]

theorem IsIdentifier.isIdentifierPart_of_mem {cs : List Char} (h : IsIdentifier cs) :
    ∀ c ∈ cs, isIdentifierPart c = true := by
  obtain ⟨first, others⟩ := h
  refine List.forall_mem_cons.mpr ⟨?_, fun d hd => isIdentifierPart_iff.mpr (others d hd)⟩
  rw [isIdentifierPart, isIdentifierStart_iff.mpr first, Bool.true_or]

end Characters

/-! ## Readers of single parts -/

section Readers

variable {cs identifier inner value rest : List Char} {mark : Char}

/-- The reader of identifiers takes the longest identifier at the front. -/
theorem splitIdentifier?_eq_some_iff :
    splitIdentifier? cs = some (identifier, rest) ↔
      cs = identifier ++ rest ∧ IsIdentifier identifier ∧
        ∀ c ∈ rest.head?, isIdentifierPart c = false := by
  constructor
  · intro h
    cases cs with
    | nil => cases h
    | cons c cs =>
      rw [splitIdentifier?] at h
      split_ifs at h with hc
      obtain ⟨rfl, rfl⟩ := Prod.mk.inj (Option.some.inj h)
      have htake : cs.takeWhile isIdentifierPart = cs.takeWhile isIdentifierPart := rfl
      obtain ⟨hcs, hothers, hrest⟩ := takeWhile_and_dropWhile_eq_iff.mp ⟨htake, rfl⟩
      refine ⟨congrArg (c :: ·) hcs, ⟨isIdentifierStart_iff.mp hc, ?_⟩, hrest⟩
      exact fun d hd => isIdentifierPart_iff.mp (hothers d hd)
  · rintro ⟨rfl, hidentifier, hrest⟩
    cases hidentifier with
    | @intro c cs first others =>
      have hothers : ∀ d ∈ cs, isIdentifierPart d = true := fun d hd =>
        isIdentifierPart_iff.mpr (others d hd)
      obtain ⟨htake, hdrop⟩ := takeWhile_and_dropWhile_eq_iff.mpr ⟨rfl, hothers, hrest⟩
      rw [List.cons_append, splitIdentifier?, if_pos (isIdentifierStart_iff.mpr first), htake,
        hdrop]

theorem skipBlank_eq_iff :
    skipBlank cs = rest ↔
      ∃ space, IsSpace space ∧ cs = space ++ rest ∧ ∀ c ∈ rest.head?, Text.isBlank c = false := by
  constructor
  · intro h
    obtain ⟨hcs, hspace, hrest⟩ := takeWhile_and_dropWhile_eq_iff.mp ⟨rfl, h⟩
    exact ⟨_, hspace, hcs, hrest⟩
  · rintro ⟨space, hspace, hcs, hrest⟩
    exact (takeWhile_and_dropWhile_eq_iff.mpr ⟨hcs, hspace, hrest⟩).2

theorem insideMarks?_eq_some_iff :
    insideMarks? mark cs = some inner ↔ IsBetween mark inner cs := by
  have hnoMark : (∀ c ∈ inner, (c != mark) = true) ↔ mark ∉ inner := by
    constructor
    · intro h hmark
      simpa using h mark hmark
    · intro h c hc
      rw [bne_iff_ne]
      rintro rfl
      exact h hc
  constructor
  · intro h
    cases cs with
    | nil => cases h
    | cons c cs =>
      simp only [insideMarks?] at h
      split_ifs at h with hmarks
      obtain ⟨rfl, hdrop⟩ := hmarks
      obtain ⟨hcs, hall, -⟩ := takeWhile_and_dropWhile_eq_iff.mp ⟨Option.some.inj h, hdrop⟩
      exact ⟨hnoMark.mp hall, by rw [hcs]⟩
  · rintro ⟨hinner, rfl⟩
    have hmark : ∀ c ∈ [mark].head?, (c != mark) = false := by simp
    obtain ⟨htake, hdrop⟩ := takeWhile_and_dropWhile_eq_iff.mpr ⟨rfl, hnoMark.mpr hinner, hmark⟩
    rw [insideMarks?, htake, hdrop, if_pos ⟨rfl, rfl⟩]

theorem insideMarks?_eq_none_iff :
    insideMarks? mark cs = none ↔ ∀ inner, ¬ IsBetween mark inner cs := by
  rw [Option.eq_none_iff_forall_ne_some]
  simp only [ne_eq, insideMarks?_eq_some_iff]

theorem literal?_of_double (h : insideMarks? '"' cs = some inner) : literal? cs = some inner := by
  rw [literal?, h]

theorem literal?_of_single (hdouble : insideMarks? '"' cs = none)
    (h : insideMarks? '\'' cs = some inner) : literal? cs = some inner := by
  rw [literal?, hdouble, h]

theorem literal?_of_bare (hdouble : insideMarks? '"' cs = none)
    (hsingle : insideMarks? '\'' cs = none) :
    literal? cs = some value ↔ value = cs ∧ cs ≠ [] ∧ ∀ c ∈ cs, Text.isBlank c = false := by
  have hplain : (cs.isEmpty || cs.any Text.isBlank) = false ↔
      cs ≠ [] ∧ ∀ c ∈ cs, Text.isBlank c = false := by
    simp
  rw [literal?, hdouble, hsingle, ← hplain]
  cases cs.isEmpty || cs.any Text.isBlank <;> simp [eq_comm]

/-- The reader of literals tries marks of either kind first, and only then the text as it
stands. -/
theorem literal?_eq_some_iff : literal? cs = some value ↔ StandsFor cs value := by
  constructor
  · intro h
    cases hdouble : insideMarks? '"' cs with
    | some inner =>
      rw [literal?_of_double hdouble] at h
      cases h
      exact .double (insideMarks?_eq_some_iff.mp hdouble)
    | none =>
      cases hsingle : insideMarks? '\'' cs with
      | some inner =>
        rw [literal?_of_single hdouble hsingle] at h
        cases h
        exact .single (insideMarks?_eq_some_iff.mp hsingle)
      | none =>
        obtain ⟨rfl, hne, hblank⟩ := (literal?_of_bare hdouble hsingle).mp h
        exact .bare (insideMarks?_eq_none_iff.mp hdouble) (insideMarks?_eq_none_iff.mp hsingle)
          hne hblank
  · intro h
    cases h with
    | double h => exact literal?_of_double (insideMarks?_eq_some_iff.mpr h)
    | single h =>
      refine literal?_of_single ?_ (insideMarks?_eq_some_iff.mpr h)
      refine insideMarks?_eq_none_iff.mpr fun inner hdouble => ?_
      have hmarks := (List.cons.inj (hdouble.chars.symm.trans h.chars)).1
      cases hmarks
    | bare hnotDouble hnotSingle hne hblank =>
      exact (literal?_of_bare (insideMarks?_eq_none_iff.mpr hnotDouble)
        (insideMarks?_eq_none_iff.mpr hnotSingle)).mpr ⟨rfl, hne, hblank⟩

end Readers

/-- No literal begins with a blank. -/
theorem StandsFor.isBlank_of_mem_head? {literal value : List Char} (h : StandsFor literal value) :
    ∀ c ∈ literal.head?, Text.isBlank c = false := by
  cases h with
  | double h =>
    rw [h.chars]
    rintro _ ⟨⟩
    decide
  | single h =>
    rw [h.chars]
    rintro _ ⟨⟩
    decide
  | bare _ _ _ noBlank => exact fun c hc => noBlank c (List.mem_of_mem_head? hc)

/-! ## Texts and their parts -/

namespace Parts

/-- The sign is no blank. -/
theorem isBlank_of_mem_head?_fromSign (d : Parts) :
    ∀ c ∈ d.fromSign.head?, Text.isBlank c = false := by
  unfold fromSign
  cases d.comparison with
  | equal =>
    rintro _ ⟨⟩
    decide
  | unequal =>
    rintro _ ⟨⟩
    decide

/-- Neither the blanks nor the sign continue the identifier. -/
theorem isIdentifierPart_of_mem_head? (d : Parts) :
    ∀ c ∈ (d.before ++ d.fromSign).head?, isIdentifierPart c = false := by
  cases hbefore : d.before with
  | nil =>
    unfold fromSign
    cases d.comparison with
    | equal =>
      rintro _ ⟨⟩
      decide
    | unequal =>
      rintro _ ⟨⟩
      decide
  | cons b bs =>
    rintro _ ⟨⟩
    refine isIdentifierPart_eq_false_of_isBlank (d.before_isSpace b ?_)
    rw [hbefore]
    exact List.mem_cons_self

/-- A text has its parts in one way only: each part ends where the next character cannot belong to
it. -/
theorem eq_of_chars_eq {d d' : Parts} (h : d.chars = d'.chars) : d = d' := by
  -- from left to right: what a part takes away, the rests that are left have in common
  obtain ⟨hidentifier, hrest⟩ := append_inj_of_boundary (p := isIdentifierPart) h
    d.isIdentifier.isIdentifierPart_of_mem d.isIdentifierPart_of_mem_head?
    d'.isIdentifier.isIdentifierPart_of_mem d'.isIdentifierPart_of_mem_head?
  obtain ⟨hbefore, hsign⟩ := append_inj_of_boundary hrest
    d.before_isSpace d.isBlank_of_mem_head?_fromSign
    d'.before_isSpace d'.isBlank_of_mem_head?_fromSign
  have hsplit : splitSign? d.fromSign = some (d.comparison, d.after ++ d.literal) :=
    splitSign?_eq_some_iff.mpr rfl
  rw [splitSign?_eq_some_iff.mpr hsign] at hsplit
  obtain ⟨hcomparison, hrest⟩ := Prod.mk.inj (Option.some.inj hsplit.symm)
  obtain ⟨hafter, hliteral⟩ := append_inj_of_boundary hrest
    d.after_isSpace d.standsFor.isBlank_of_mem_head?
    d'.after_isSpace d'.standsFor.isBlank_of_mem_head?
  -- a literal stands for one value only, since the reader is a function
  have hvalue := literal?_eq_some_iff.mpr d.standsFor
  rw [hliteral, literal?_eq_some_iff.mpr d'.standsFor] at hvalue
  exact Parts.ext hidentifier hbefore hcomparison hafter hliteral (Option.some.inj hvalue).symm

end Parts

/-- The scanner splits a text iff it has parts, and then into these. -/
theorem splitCondition?_eq_some_iff {cs identifier value : List Char} {comparison : Comparison} :
    splitCondition? cs = some (identifier, comparison, value) ↔
      ∃ d : Parts, d.chars = cs ∧ d.identifier = identifier ∧ d.comparison = comparison ∧
        d.value = value := by
  constructor
  · intro h
    simp only [splitCondition?, Option.bind_eq_bind, Option.bind_eq_some_iff, Prod.exists,
      Option.pure_def, Option.some.injEq, Prod.mk.injEq] at h
    obtain ⟨i, rest, hidentifier, k, rest', hsign, v, hliteral, rfl, rfl, rfl⟩ := h
    obtain ⟨rfl, hisIdentifier, -⟩ := splitIdentifier?_eq_some_iff.mp hidentifier
    obtain ⟨before, hbefore, hrest, -⟩ := skipBlank_eq_iff.mp (splitSign?_eq_some_iff.mp hsign)
    obtain ⟨after, hafter, hrest', -⟩ := skipBlank_eq_iff.mp (rfl : skipBlank rest' = _)
    have hstands := literal?_eq_some_iff.mp hliteral
    have hchars : rest = before ++ (k.sign.toList ++ (after ++ skipBlank rest')) := by
      rw [← hrest']
      exact hrest
    rw [hchars]
    exact ⟨⟨i, before, k, after, _, v, hisIdentifier, hbefore, hafter, hstands⟩, rfl, rfl, rfl, rfl⟩
  · rintro ⟨d, rfl, rfl, rfl, rfl⟩
    have hidentifier : splitIdentifier? d.chars = some (d.identifier, d.before ++ d.fromSign) :=
      splitIdentifier?_eq_some_iff.mpr ⟨rfl, d.isIdentifier, d.isIdentifierPart_of_mem_head?⟩
    have hbefore : skipBlank (d.before ++ d.fromSign) = d.fromSign :=
      skipBlank_eq_iff.mpr ⟨_, d.before_isSpace, rfl, d.isBlank_of_mem_head?_fromSign⟩
    have hsign : splitSign? d.fromSign = some (d.comparison, d.after ++ d.literal) :=
      splitSign?_eq_some_iff.mpr rfl
    have hafter : skipBlank (d.after ++ d.literal) = d.literal :=
      skipBlank_eq_iff.mpr ⟨_, d.after_isSpace, rfl, d.standsFor.isBlank_of_mem_head?⟩
    have hliteral := literal?_eq_some_iff.mpr d.standsFor
    simp [splitCondition?, hidentifier, hbefore, hsign, hafter, hliteral]

/-! ## Whole conditions -/

/-- The names that a condition can compare. -/
def aspectNames : List String :=
  ["job_id", "job_name", "channel", "user_id", "session_id", "task_type"]

theorem Aspect.name_mem_aspectNames (a : Aspect) : a.name ∈ aspectNames := by
  cases a <;> decide

theorem Aspect.ofName?_eq_some_iff {name : String} {a : Aspect} :
    Aspect.ofName? name = some a ↔ a.name = name := by
  constructor
  · intro h
    simpa using List.find?_some h
  · rintro rfl
    exact ofName?_name a

theorem Aspect.ofName?_eq_none_iff {name : String} :
    Aspect.ofName? name = none ↔ name ∉ aspectNames := by
  have hnames : aspectNames = Aspect.all.map Aspect.name := rfl
  rw [hnames, Aspect.ofName?, List.find?_eq_none, List.mem_map]
  simp

section Read

variable {raw : String}

/-- Neither the blanks around a text nor the empty text have parts. -/
theorem Parts.not_isSpace {d : Parts} (h : d.chars = (Text.trim raw).toList) :
    ¬ IsSpace raw.toList := by
  intro hspace
  rw [Text.trim_eq_empty_iff.mpr hspace, chars, String.toList_empty, List.append_eq_nil_iff] at h
  have hidentifier := d.isIdentifier
  rw [h.1] at hidentifier
  cases hidentifier

theorem Condition.read_of_isSpace (h : IsSpace raw.toList) :
    Condition.read raw = .error .missing := by
  rw [Condition.read_eq_scan, Condition.scan, if_pos (Text.trim_eq_empty_iff.mpr h)]

theorem Condition.read_of_no_parts (hspace : ¬ IsSpace raw.toList)
    (h : ∀ d : Parts, d.chars ≠ (Text.trim raw).toList) :
    Condition.read raw = .error .malformed := by
  have hsplit : splitCondition? (Text.trim raw).toList = none := by
    rw [Option.eq_none_iff_forall_ne_some]
    rintro ⟨identifier, comparison, value⟩ hsome
    obtain ⟨d, hd, -⟩ := splitCondition?_eq_some_iff.mp hsome
    exact h d hd
  rw [Condition.read_eq_scan, Condition.scan,
    if_neg (fun h => hspace (Text.trim_eq_empty_iff.mp h)), hsplit]

/-- A text that has parts is a condition if its identifier writes a name that can be compared. -/
theorem Condition.read_of_parts {d : Parts} (h : d.chars = (Text.trim raw).toList) :
    Condition.read raw = match Aspect.ofName? d.name with
      | none => .error (.unsupported d.name)
      | some aspect => .ok ⟨aspect, d.comparison, String.ofList d.value⟩ := by
  rw [Condition.read_eq_scan, Condition.scan,
    if_neg (fun hempty => d.not_isSpace h (Text.trim_eq_empty_iff.mp hempty)),
    splitCondition?_eq_some_iff.mpr ⟨d, h, rfl, rfl, rfl⟩]
  rfl

/-- What the grammar says about a text. -/
inductive Reads (raw : String) : Except ConditionError Condition → Prop
  | missing (hspace : IsSpace raw.toList) : Reads raw (.error .missing)
  | malformed (hspace : ¬ IsSpace raw.toList)
      (hnone : ∀ d : Parts, d.chars ≠ (Text.trim raw).toList) : Reads raw (.error .malformed)
  | unsupported (d : Parts) (hd : d.chars = (Text.trim raw).toList)
      (hname : d.name ∉ aspectNames) : Reads raw (.error (.unsupported d.name))
  | condition (d : Parts) (hd : d.chars = (Text.trim raw).toList) (a : Aspect)
      (hname : a.name = d.name) : Reads raw (.ok ⟨a, d.comparison, String.ofList d.value⟩)

/-- The grammar says something about every text, and it is what the reader comes to. -/
theorem reads_read (raw : String) : Reads raw (Condition.read raw) := by
  by_cases hspace : IsSpace raw.toList
  · rw [Condition.read_of_isSpace hspace]
    exact .missing hspace
  by_cases hparts : ∃ d : Parts, d.chars = (Text.trim raw).toList
  · obtain ⟨d, hd⟩ := hparts
    rw [Condition.read_of_parts hd]
    cases hname : Aspect.ofName? d.name with
    | none => exact .unsupported d hd (Aspect.ofName?_eq_none_iff.mp hname)
    | some a => exact .condition d hd a (Aspect.ofName?_eq_some_iff.mp hname)
  · have hnone (d : Parts) : d.chars ≠ (Text.trim raw).toList := fun hd => hparts ⟨d, hd⟩
    rw [Condition.read_of_no_parts hspace hnone]
    exact .malformed hspace hnone

/-- The reader comes to what the grammar says and to nothing else. -/
theorem read_eq_iff_reads {result : Except ConditionError Condition} :
    Condition.read raw = result ↔ Reads raw result := by
  constructor
  · rintro rfl
    exact reads_read raw
  · intro h
    cases h with
    | missing hspace => exact Condition.read_of_isSpace hspace
    | malformed hspace hnone => exact Condition.read_of_no_parts hspace hnone
    | unsupported d hd hname =>
      rw [Condition.read_of_parts hd, Aspect.ofName?_eq_none_iff.mpr hname]
    | condition d hd a hname =>
      rw [Condition.read_of_parts hd, Aspect.ofName?_eq_some_iff.mpr hname]

end Read

/-- A text is a condition iff, without the blanks at its ends, it consists of the parts of one, and
the identifier among them writes a name that can be compared.  It has these parts in one way only.
A text that is no condition is refused: as missing iff it is blank, for its name iff it has parts
all the same, and as malformed otherwise. -/
theorem Condition.read_agrees_with_grammar (raw : String) :
    (∀ c, Condition.read raw = .ok c ↔
      ∃ d : Parts, d.chars = (Text.trim raw).toList ∧ d.name ∈ aspectNames ∧
        c.aspect.name = d.name ∧ c.comparison = d.comparison ∧ c.value = String.ofList d.value) ∧
    (∀ d d' : Parts, d.chars = (Text.trim raw).toList → d'.chars = (Text.trim raw).toList →
      d = d') ∧
    (Condition.read raw = .error .missing ↔ IsSpace raw.toList) ∧
    (∀ name, Condition.read raw = .error (.unsupported name) ↔
      ∃ d : Parts, d.chars = (Text.trim raw).toList ∧ d.name = name ∧ name ∉ aspectNames) ∧
    (Condition.read raw = .error .malformed ↔
      ¬ IsSpace raw.toList ∧ ∀ d : Parts, d.chars ≠ (Text.trim raw).toList) ∧
    ConditionError.missing.message = "if_condition is required" ∧
    (∀ name, (ConditionError.unsupported name).message =
      "if_condition field " ++ Text.quoted name ++ " is unsupported") ∧
    ∃ shape, ConditionError.malformed.message = "if_condition must match " ++ shape := by
  simp only [read_eq_iff_reads]
  refine ⟨fun c => ?accepted, fun d d' hd hd' => ?unique, ?missing, fun name => ?unsupported,
    ?malformed, rfl, fun name => rfl, ?message⟩
  case accepted =>
    constructor
    · intro h
      cases h with
      | condition d hd a hname =>
        exact ⟨d, hd, hname ▸ a.name_mem_aspectNames, hname, rfl, rfl⟩
    · rintro ⟨d, hd, -, haspect, hcomparison, hvalue⟩
      have hc : c = ⟨c.aspect, d.comparison, String.ofList d.value⟩ := by
        rw [← hcomparison, ← hvalue]
      rw [hc]
      exact .condition d hd c.aspect haspect
  case unique => exact Parts.eq_of_chars_eq (hd.trans hd'.symm)
  case missing =>
    constructor
    · intro h
      cases h with
      | missing hspace => exact hspace
    · exact .missing
  case unsupported =>
    constructor
    · intro h
      cases h with
      | unsupported d hd hname => exact ⟨d, hd, rfl, hname⟩
    · rintro ⟨d, hd, rfl, hname⟩
      exact .unsupported d hd hname
  case malformed =>
    constructor
    · intro h
      cases h with
      | malformed hspace hnone => exact ⟨hspace, hnone⟩
    · rintro ⟨hspace, hnone⟩
      exact .malformed hspace hnone
  case message =>
    have hassoc (a b c d e : String) : a ++ b ++ c ++ b ++ d ++ b ++ e ++ b =
        a ++ (b ++ c ++ b ++ d ++ b ++ e ++ b) := by
      simp only [String.append_assoc]
    exact ⟨_, hassoc ..⟩

/-- The sign is the shortest that there is, and the rest belongs to the literal. -/
example : Condition.read " Channel ====x" = .ok ⟨.channel, .equal, "==x"⟩ := by decide +kernel

end JobChain
