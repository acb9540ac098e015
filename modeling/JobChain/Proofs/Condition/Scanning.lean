import JobChain.Condition.Reader
import JobChain.Proofs.Text.Normal

/-!
# Scanning conditions

The pattern of a condition is matched by trying, but on a text without blanks at its ends no
character that a repetition has taken is ever given back: blanks are followed by an identifier, a
sign or a literal, none of which begins with a blank; an identifier is followed by a blank or a
sign, neither of which continues it; and a literal is followed by the end.  So the pattern can be
matched in one go from left to right, by cutting the text where each part ends.

* `splitIdentifier?`, `splitSign?`, `skipBlank`, `literal?`: the single cuts.
* `splitCondition?`: the three parts of a condition.
* `map_partsOf_match?`: matching the pattern gives these parts.
* `Condition.read_eq_scan`: the reader of conditions by way of these cuts.
-/

namespace JobChain

/-- The identifier at the front of a text, with what follows it. -/
def splitIdentifier? : List Char → Option (List Char × List Char)
  | [] => none
  | c :: rest =>
    if isIdentifierStart c then
      some (c :: rest.takeWhile isIdentifierPart, rest.dropWhile isIdentifierPart)
    else none

/-- The comparison at the front of a text, with what follows it. -/
def splitSign? : List Char → Option (Comparison × List Char)
  | '=' :: '=' :: rest => some (.equal, rest)
  | '!' :: '=' :: rest => some (.unequal, rest)
  | _ => none

/-- The rest of a text after the blank characters at its front. -/
def skipBlank (cs : List Char) : List Char := cs.dropWhile Text.isBlank

/-- The inside of a literal between two marks, if the literal is one. -/
def insideMarks? (mark : Char) : List Char → Option (List Char)
  | [] => none
  | c :: rest =>
    let inner := rest.takeWhile (· != mark)
    if c = mark ∧ rest.dropWhile (· != mark) = [mark] then some inner else none

/-- The text that a literal stands for. -/
def literal? (cs : List Char) : Option (List Char) :=
  match insideMarks? '"' cs with
  | some inner => some inner
  | none =>
    match insideMarks? '\'' cs with
    | some inner => some inner
    | none => if cs.isEmpty || cs.any Text.isBlank then none else some cs

/-- The identifier, the comparison and the value of a condition without blanks at its ends. -/
def splitCondition? (cs : List Char) : Option (List Char × Comparison × List Char) := do
  let (identifier, rest) ← splitIdentifier? cs
  let (comparison, rest) ← splitSign? (skipBlank rest)
  let value ← literal? (skipBlank rest)
  return (identifier, comparison, value)

/-- The condition that a text is, by way of its parts. -/
def Condition.scan (raw : String) : Except ConditionError Condition :=
  let trimmed := Text.trim raw
  if trimmed = "" then .error .missing
  else
    match splitCondition? trimmed.toList with
    | none => .error .malformed
    | some (identifier, comparison, value) =>
      Condition.ofName (Text.lower (String.ofList identifier)) comparison value

/-! ## Characters -/

section Characters

variable {c : Char}

/-- All blanks stand before or after the visible ASCII characters. -/
theorem toNat_of_isBlank (h : Text.isBlank c = true) : c.toNat ≤ 0x20 ∨ 0x85 ≤ c.toNat := by
  have hranges : ∀ range ∈ Text.blankRanges, range.2 ≤ 0x20 ∨ 0x85 ≤ range.1 := by decide
  obtain ⟨range, hrange, hc⟩ := Text.inRanges_iff.mp h
  have hbounds := hranges range hrange
  omega

/-- No visible ASCII character is a blank. -/
theorem ne_of_isBlank {d : Char} (h : Text.isBlank c = true)
    (hd : 0x20 < d.toNat ∧ d.toNat < 0x85) : c ≠ d := by
  rintro rfl
  have hc := toNat_of_isBlank h
  omega

/-- Every character of an identifier is a visible ASCII character, and none begins a sign. -/
theorem toNat_of_isIdentifierPart (h : isIdentifierPart c = true) :
    0x30 ≤ c.toNat ∧ c.toNat < 0x80 ∧ c.toNat ≠ 0x3D := by
  have hcode (a b : Char) : a ≤ b ↔ a.toNat ≤ b.toNat := Iff.rfl
  simp only [isIdentifierPart, isIdentifierStart, Bool.or_eq_true, Bool.and_eq_true,
    decide_eq_true_eq, beq_iff_eq, hcode, Char.reduceToNat] at h
  rcases h with ((hupper | hlower) | rfl) | hdigit
  · omega
  · omega
  · decide
  · omega

/-- No blank continues an identifier. -/
theorem isIdentifierPart_eq_false_of_isBlank (h : Text.isBlank c = true) :
    isIdentifierPart c = false := by
  rw [← Bool.not_eq_true]
  intro hpart
  have hc := toNat_of_isBlank h
  have hc' := toNat_of_isIdentifierPart hpart
  omega

end Characters

/-! ## What is left to match after each part -/

section Stages

open Text Pattern

/-- Nothing more. -/
def matched : Following := fun _ groups => some groups

/-- The blanks at the end. -/
def fromEnd (length : Nat) : Following := blanks.matchThen length (finish.matchThen length matched)

/-- The literal and what follows it. -/
def fromLiteral (length : Nat) : Following := literalPattern.matchThen length (fromEnd length)

/-- What follows the sign. -/
def fromValue (length : Nat) : Following := blanks.matchThen length (fromLiteral length)

/-- The sign and what follows it. -/
def fromSign (length : Nat) : Following := signPattern.matchThen length (fromValue length)

/-- What follows the identifier. -/
def fromComparison (length : Nat) : Following := blanks.matchThen length (fromSign length)

/-- The identifier and what follows it. -/
def fromIdentifier (length : Nat) : Following :=
  identifierPattern.matchThen length (fromComparison length)

variable {length : Nat} {c : Char} {cs : List Char} {groups : Groups}

/-- A text does not end with a blank. -/
def EndsPlain (cs : List Char) : Prop := ∀ c ∈ cs.getLast?, isBlank c = false

theorem EndsPlain.of_append (front : List Char) (h : EndsPlain (front ++ cs)) : EndsPlain cs := by
  intro c hc
  refine h c ?_
  rw [List.getLast?_append, Option.mem_def.mp hc, Option.some_or]
  rfl

theorem EndsPlain.tail (h : EndsPlain (c :: cs)) : EndsPlain cs := of_append [c] h

theorem EndsPlain.dropWhile (h : EndsPlain cs) (p : Char → Bool) : EndsPlain (cs.dropWhile p) := by
  rw [← List.takeWhile_append_dropWhile (p := p) (l := cs)] at h
  exact of_append _ h

/-- Such a text is empty if it holds blanks only. -/
theorem EndsPlain.eq_nil_iff (h : EndsPlain cs) : cs = [] ↔ cs.all isBlank = true := by
  constructor
  · rintro rfl
    rfl
  · intro hall
    rw [← List.getLast?_eq_none_iff, Option.eq_none_iff_forall_ne_some]
    intro c hc
    have hblank := List.all_eq_true.mp hall c (List.mem_of_getLast? hc)
    rw [h c hc] at hblank
    cases hblank

/-- The end is reached iff only blanks are left over.  It may also be reached before the end of a
line, but that is a blank itself. -/
theorem fromEnd_eq : fromEnd length cs groups = if cs.all isBlank then some groups else none := by
  change repeatThen isBlank (fun rest => finish.matchThen length matched rest groups) cs = _
  induction cs with
  | nil => rfl
  | cons c cs ih =>
    cases hc : isBlank c with
    | true =>
      rw [repeatThen, if_pos hc, ih, List.all_cons, hc, Bool.true_and]
      split_ifs with hall
      · rfl
      · have hcs : cs ≠ [] := by
          rintro rfl
          exact hall rfl
        simp [matchThen, hcs]
    | false =>
      have hline : c ≠ '\n' := by
        rintro rfl
        revert hc
        decide
      rw [repeatThen, hc, if_neg Bool.false_ne_true, List.all_cons, hc]
      simp [matchThen, hline]

theorem fromEnd_of_endsPlain (h : EndsPlain cs) :
    fromEnd length cs groups = if cs = [] then some groups else none := by
  rw [fromEnd_eq]
  simp only [h.eq_nil_iff]

/-! ## Literals -/

/-- The group of a literal, with the text that it takes. -/
def literalGroup? (cs : List Char) : Option (Nat × List Char) :=
  match insideMarks? '"' cs with
  | some inner => some (3, inner)
  | none =>
    match insideMarks? '\'' cs with
    | some inner => some (4, inner)
    | none => if cs.isEmpty || cs.any isBlank then none else some (5, cs)

theorem char_matchThen_cons (c d : Char) (next : Following) :
    (char c).matchThen length next (d :: cs) groups = if d = c then next cs groups else none := by
  simp [char, matchThen]

/-- A mark after which a text is to end is its last character. -/
theorem char_matchThen_fromEnd (mark : Char) (h : EndsPlain cs) :
    (char mark).matchThen length (fromEnd length) cs groups =
      if cs = [mark] then some groups else none := by
  cases cs with
  | nil => rfl
  | cons c rest =>
    rw [char_matchThen_cons, fromEnd_of_endsPlain h.tail, ← ite_and]
    exact if_congr (by simp) rfl rfl

/-- The text between two marks ends at the first mark, which no repetition gives back. -/
theorem markedPattern_matchThen (mark : Char) (n : Nat) (h : EndsPlain cs) :
    (markedPattern mark n).matchThen length (fromEnd length) cs groups =
      (insideMarks? mark cs).map fun inner => (n, inner) :: groups := by
  cases cs with
  | nil => rfl
  | cons c rest =>
    have hstops (d : Char) (ds : List Char) (hd : (d != mark) = true) :
        (char mark).matchThen length (fromEnd length) (d :: ds)
          ((n, taken rest (d :: ds)) :: groups) = none := by
      rw [char_matchThen_cons, if_neg (by simpa using hd)]
    have hinside : (seq (group n (many (· != mark))) (char mark)).matchThen length (fromEnd length)
        rest groups =
          if rest.dropWhile (· != mark) = [mark] then
            some ((n, rest.takeWhile (· != mark)) :: groups)
          else none := by
      have hrepeat : repeatThen (· != mark) (fun left => (char mark).matchThen length
          (fromEnd length) left ((n, taken rest left) :: groups)) rest = _ :=
        repeatThen_of_stops hstops
      rw [taken_dropWhile, char_matchThen_fromEnd mark (h.tail.dropWhile _)] at hrepeat
      exact hrepeat
    have hmark : (markedPattern mark n).matchThen length (fromEnd length) (c :: rest) groups =
        (char mark).matchThen length
          ((seq (group n (many (· != mark))) (char mark)).matchThen length (fromEnd length))
          (c :: rest) groups := rfl
    rw [hmark, char_matchThen_cons, hinside, insideMarks?, ← ite_and]
    split_ifs <;> rfl

/-- A text that stands for itself ends at the first blank, so there is none. -/
theorem bare_matchThen (h : EndsPlain cs) :
    (group 5 (several fun c => !isBlank c)).matchThen length (fromEnd length) cs groups =
      if cs.isEmpty || cs.any isBlank then none else some ((5, cs) :: groups) := by
  cases cs with
  | nil => rfl
  | cons c rest =>
    have hstops : ∀ d ds, (!isBlank d) = true →
        fromEnd length (d :: ds) ((5, taken (c :: rest) (d :: ds)) :: groups) = none := by
      intro d ds hd
      rw [fromEnd_eq, List.all_cons, (Bool.not_eq_true' _).mp hd, Bool.false_and]
      rfl
    cases hc : isBlank c with
    | true => simp [several, matchThen, hc]
    | false =>
      have hend : EndsPlain (rest.dropWhile fun c => !isBlank c) := h.tail.dropWhile _
      simp only [several, matchThen, hc, Bool.not_false, if_true]
      rw [repeatThen_of_stops hstops, fromEnd_of_endsPlain hend]
      by_cases hany : rest.any isBlank = true
      · have hne : rest.dropWhile (fun c => !isBlank c) ≠ [] := by
          simpa using hany
        simp [hne, hany]
      · have hnil : rest.dropWhile (fun c => !isBlank c) = [] := by
          simpa using hany
        rw [hnil]
        simp [taken, hc, hany]

theorem fromLiteral_eq (h : EndsPlain cs) :
    fromLiteral length cs groups = (literalGroup? cs).map (· :: groups) := by
  have hpatterns : fromLiteral length cs groups =
      ((markedPattern '"' 3).matchThen length (fromEnd length) cs groups).or
        (((markedPattern '\'' 4).matchThen length (fromEnd length) cs groups).or
          ((group 5 (several fun c => !isBlank c)).matchThen length (fromEnd length) cs groups)) :=
    rfl
  rw [hpatterns, markedPattern_matchThen _ _ h, markedPattern_matchThen _ _ h, bare_matchThen h,
    literalGroup?]
  cases insideMarks? '"' cs with
  | some inner => rfl
  | none =>
    cases insideMarks? '\'' cs with
    | some inner => rfl
    | none =>
      cases cs.isEmpty || cs.any isBlank <;> rfl

/-- No literal begins with a blank. -/
theorem fromLiteral_of_isBlank (h : isBlank c = true) :
    fromLiteral length (c :: cs) groups = none := by
  have hdouble : c ≠ '"' := ne_of_isBlank h (by decide)
  have hsingle : c ≠ '\'' := ne_of_isBlank h (by decide)
  simp [fromLiteral, literalPattern, markedPattern, char, several, matchThen, hdouble, hsingle, h]

theorem fromValue_eq (h : EndsPlain cs) :
    fromValue length cs groups = (literalGroup? (skipBlank cs)).map (· :: groups) := by
  have hstops : ∀ c cs, isBlank c = true → fromLiteral length (c :: cs) groups = none :=
    fun c cs hc => fromLiteral_of_isBlank hc
  rw [skipBlank, ← fromLiteral_eq (h.dropWhile isBlank)]
  exact repeatThen_of_stops hstops

/-! ## Signs -/

theorem splitSign?_eq_some_iff {k : Comparison} {rest : List Char} :
    splitSign? cs = some (k, rest) ↔ cs = k.sign.toList ++ rest := by
  constructor
  · intro h
    unfold splitSign? at h
    split at h
    · obtain ⟨rfl, rfl⟩ := Prod.mk.inj (Option.some.inj h)
      rfl
    · obtain ⟨rfl, rfl⟩ := Prod.mk.inj (Option.some.inj h)
      rfl
    · cases h
  · rintro rfl
    cases k <;> rfl

/-- Each word has its own first character, so the second one matches only where the first does
not. -/
theorem fromSign_eq : fromSign length cs groups =
    (splitSign? cs).bind fun (k, rest) => fromValue length rest ((2, k.sign.toList) :: groups) := by
  have hequal : word "==" = seq (char '=') (seq (char '=') nothing) := rfl
  have hunequal : word "!=" = seq (char '!') (seq (char '=') nothing) := rfl
  have hsigns : fromSign length cs groups =
      ((group 2 (word "==")).matchThen length (fromValue length) cs groups).or
        ((group 2 (word "!=")).matchThen length (fromValue length) cs groups) := rfl
  rw [hsigns, hequal, hunequal]
  unfold splitSign?
  split
  · rename_i rest
    have htaken : taken ('=' :: '=' :: rest) rest = ['=', '='] := taken_append ['=', '='] rest
    simp [char, matchThen, htaken, Comparison.sign]
  · rename_i rest
    have htaken : taken ('!' :: '=' :: rest) rest = ['!', '='] := taken_append ['!', '='] rest
    simp [char, matchThen, htaken, Comparison.sign]
  · rename_i hequal hunequal
    rcases cs with _ | ⟨c, _ | ⟨d, rest⟩⟩
    · rfl
    · simp [char, matchThen]
    · have hequal' : ¬(c = '=' ∧ d = '=') := by
        rintro ⟨rfl, rfl⟩
        exact hequal rest rfl
      have hunequal' : ¬(c = '!' ∧ d = '=') := by
        rintro ⟨rfl, rfl⟩
        exact hunequal rest rfl
      simp only [char, matchThen]
      grind

/-- No sign begins with a character that is neither an equals sign nor an exclamation mark. -/
theorem splitSign?_of_ne (hequal : c ≠ '=') (hunequal : c ≠ '!') : splitSign? (c :: cs) = none := by
  unfold splitSign?
  split <;> simp_all

theorem fromSign_of_isBlank (h : isBlank c = true) : fromSign length (c :: cs) groups = none := by
  rw [fromSign_eq, splitSign?_of_ne (ne_of_isBlank h (by decide)) (ne_of_isBlank h (by decide))]
  rfl

theorem fromComparison_eq : fromComparison length cs groups =
    fromSign length (skipBlank cs) groups := by
  have hstops : ∀ c cs, isBlank c = true → fromSign length (c :: cs) groups = none :=
    fun c cs hc => fromSign_of_isBlank hc
  exact repeatThen_of_stops hstops

/-! ## Identifiers -/

/-- Neither a blank nor a sign continues an identifier. -/
theorem fromComparison_of_isIdentifierPart (h : isIdentifierPart c = true) :
    fromComparison length (c :: cs) groups = none := by
  have hcode := toNat_of_isIdentifierPart h
  have hblank : isBlank c = false := by
    rw [← Bool.not_eq_true]
    intro hblank
    rw [isIdentifierPart_eq_false_of_isBlank hblank] at h
    cases h
  have hequal : c ≠ '=' := by
    rintro rfl
    revert hcode
    decide
  have hunequal : c ≠ '!' := by
    rintro rfl
    revert hcode
    decide
  rw [fromComparison_eq, skipBlank, List.dropWhile_cons_of_neg (by simp [hblank]), fromSign_eq,
    splitSign?_of_ne hequal hunequal]
  rfl

theorem fromIdentifier_eq : fromIdentifier length cs groups =
    (splitIdentifier? cs).bind fun (identifier, rest) =>
      fromComparison length rest ((1, identifier) :: groups) := by
  cases cs with
  | nil => rfl
  | cons c rest =>
    cases hc : isIdentifierStart c with
    | true =>
      have hstops : ∀ d ds, isIdentifierPart d = true →
          fromComparison length (d :: ds) ((1, taken (c :: rest) (d :: ds)) :: groups) = none :=
        fun d ds hd => fromComparison_of_isIdentifierPart hd
      have htaken : taken (c :: rest) (rest.dropWhile isIdentifierPart) =
          c :: rest.takeWhile isIdentifierPart := by
        conv =>
          enter [1, 1]
          rw [← List.takeWhile_append_dropWhile (p := isIdentifierPart) (l := rest)]
        exact taken_append (c :: rest.takeWhile isIdentifierPart) _
      simp only [fromIdentifier, identifierPattern, matchThen, hc, if_true, splitIdentifier?,
        Option.bind_some]
      rw [repeatThen_of_stops hstops, htaken]
    | false => simp [fromIdentifier, identifierPattern, matchThen, hc, splitIdentifier?]

theorem eq_append_of_splitIdentifier? {identifier rest : List Char}
    (h : splitIdentifier? cs = some (identifier, rest)) :
    cs = identifier ++ rest ∧ ∀ c ∈ identifier, isIdentifierPart c = true := by
  cases cs with
  | nil => cases h
  | cons c cs =>
    rw [splitIdentifier?] at h
    split_ifs at h with hc
    obtain ⟨rfl, rfl⟩ := Prod.mk.inj (Option.some.inj h)
    refine ⟨congrArg (c :: ·) List.takeWhile_append_dropWhile.symm, ?_⟩
    refine List.forall_mem_cons.mpr ⟨?_, List.all_eq_true.mp List.all_takeWhile⟩
    rw [isIdentifierPart, hc, Bool.true_or]

theorem fromIdentifier_of_isBlank (h : isBlank c = true) :
    fromIdentifier length (c :: cs) groups = none := by
  have hstart : isIdentifierStart c = false := by
    have hpart := isIdentifierPart_eq_false_of_isBlank h
    rw [isIdentifierPart, Bool.or_eq_false_iff] at hpart
    exact hpart.1
  rw [fromIdentifier_eq, splitIdentifier?, if_neg (by simp [hstart])]
  rfl

/-! ## Whole conditions -/

/-- The parts of a condition, as its groups hold them. -/
def partsOf (groups : Groups) : List Char × Comparison × List Char :=
  (groups.text 1, .ofSign (groups.text 2), groups.firstText [3, 4, 5])

/-- Of the three groups of a literal only one has taken part, so its text is the first that is not
empty, and if it is empty then so is the value. -/
theorem map_partsOf_literalGroup? (identifier : List Char) (k : Comparison) :
    (literalGroup? cs).map (fun found =>
        partsOf (found :: [(2, k.sign.toList), (1, identifier)])) =
      (literal? cs).map fun value => (identifier, k, value) := by
  have hsign : Comparison.ofSign k.sign.toList = k := by cases k <;> rfl
  have hvalue (n : Nat) (hn : n = 3 ∨ n = 4 ∨ n = 5) (value : List Char) :
      partsOf [(n, value), (2, k.sign.toList), (1, identifier)] = (identifier, k, value) := by
    rcases hn with rfl | rfl | rfl <;> cases value <;> exact Prod.ext rfl (Prod.ext hsign rfl)
  unfold literalGroup? literal?
  cases insideMarks? '"' cs with
  | some inner => exact congrArg some (hvalue 3 (by decide) inner)
  | none =>
    cases insideMarks? '\'' cs with
    | some inner => exact congrArg some (hvalue 4 (by decide) inner)
    | none =>
      cases cs.isEmpty || cs.any isBlank with
      | true => rfl
      | false => exact congrArg some (hvalue 5 (by decide) cs)

theorem match?_eq (h : IsTrimmed cs) :
    conditionPattern.match? cs = fromIdentifier cs.length cs [] := by
  have hstops : ∀ c cs', isBlank c = true → fromIdentifier cs.length (c :: cs') [] = none :=
    fun c cs' hc => fromIdentifier_of_isBlank hc
  have hblanks : conditionPattern.match? cs =
      repeatThen isBlank (fun rest => fromIdentifier cs.length rest []) cs :=
    if_pos rfl
  rw [hblanks, repeatThen_of_stops hstops, dropWhile_eq_self h.first]

/-- Matching the pattern on a text without blanks at its ends gives its parts. -/
theorem map_partsOf_match? (h : IsTrimmed cs) :
    (conditionPattern.match? cs).map partsOf = splitCondition? cs := by
  rw [match?_eq h, fromIdentifier_eq]
  unfold splitCondition?
  cases hidentifier : splitIdentifier? cs with
  | none => rfl
  | some found =>
    obtain ⟨identifier, rest⟩ := found
    have hrest : EndsPlain rest := by
      have hcs : EndsPlain cs := h.last
      rw [(eq_append_of_splitIdentifier? hidentifier).1] at hcs
      exact hcs.of_append _
    simp only [Option.bind_some, Option.bind_eq_bind, fromComparison_eq, fromSign_eq]
    cases hsign : splitSign? (skipBlank rest) with
    | none => rfl
    | some found =>
      obtain ⟨k, value⟩ := found
      have hvalue : EndsPlain value := by
        have hskip : EndsPlain (skipBlank rest) := hrest.dropWhile isBlank
        rw [splitSign?_eq_some_iff.mp hsign] at hskip
        exact hskip.of_append _
      simp only [Option.bind_some, fromValue_eq hvalue, Option.map_map]
      refine (map_partsOf_literalGroup? identifier k).trans ?_
      rw [Option.map_eq_bind]
      rfl

/-- No blank stands in an identifier, so trimming leaves it as it is. -/
theorem trim_of_splitCondition? {identifier value : List Char} {k : Comparison}
    (h : splitCondition? cs = some (identifier, k, value)) :
    trim (String.ofList identifier) = String.ofList identifier := by
  simp only [splitCondition?, Option.bind_eq_bind, Option.bind_eq_some_iff, Prod.exists,
    Option.pure_def, Option.some.injEq, Prod.mk.injEq] at h
  obtain ⟨i, rest, hidentifier, -, -, -, -, -, hi, -⟩ := h
  subst hi
  have hplain : ∀ c ∈ i, isBlank c = false := by
    intro c hc
    rw [← Bool.not_eq_true]
    intro hblank
    have hpart := (eq_append_of_splitIdentifier? hidentifier).2 c hc
    rw [isIdentifierPart_eq_false_of_isBlank hblank] at hpart
    cases hpart
  have htrimmed : IsTrimmed i :=
    ⟨fun c hc => hplain c (List.mem_of_mem_head? hc),
      fun c hc => hplain c (List.mem_of_getLast? hc)⟩
  rw [trim, String.toList_ofList, htrimmed.trimChars_eq]

end Stages

/-- The reader of conditions goes through a text in one go. -/
theorem Condition.read_eq_scan (raw : String) : Condition.read raw = Condition.scan raw := by
  have htrimmed : Text.IsTrimmed (Text.trim raw).toList := by
    rw [Text.toList_trim]
    exact Text.isTrimmed_trimChars raw.toList
  have hparts := map_partsOf_match? htrimmed
  unfold Condition.read Condition.scan
  dsimp only
  rw [← hparts]
  cases hmatch : conditionPattern.match? (Text.trim raw).toList with
  | none => rfl
  | some groups =>
    rw [hmatch] at hparts
    simp only [trim_of_splitCondition? hparts.symm, Option.map_some, partsOf]

end JobChain
