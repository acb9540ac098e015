import JobChain.Text.Markup
import Mathlib.Tactic.SplitIfs

/-!
# Escaped text between tags

A console refuses a text that closes a tag which is not open.  What its users write is escaped
before it is put between the tags of a message, and an escaped text neither opens nor closes a tag,
whatever it is: every tag in it stands behind an odd number of backslashes, and a bracket that it
leaves open is not closed by what follows, as long as a tag comes before the next closing bracket.
Backslashes at its end may take the tag that follows with them, but then this tag does not close
anything either.

* `closesTag`: whether a bracket that is open before a text is closed in it.
* `isSome_plainFrom_escapeFrom`: an escaped text shows, whatever is written.
* `Part`, `message`, `isWellTagged`: messages of literals, tags and escaped texts, with tags that
  fit, and `isSome_plain?_message` for all of them.
-/

namespace JobChain.Text.Markup

/-! ## Brackets that are closed -/

/-- Whether the next bracket of a text is a closing one. -/
def closesTag : List Char → Bool
  | [] => false
  | c :: cs => if c = ']' then true else if c = '[' then false else closesTag cs

theorem closesTag_cons {c : Char} {cs : List Char} (hopen : c ≠ '[') (hclose : c ≠ ']') :
    closesTag (c :: cs) = closesTag cs := by
  rw [closesTag, if_neg hclose, if_neg hopen]

theorem closesTag_eq (cs : List Char) :
    closesTag cs =
      ((cs.drop (cs.takeWhile fun d => d != '[' && d != ']').length).head? == some ']') := by
  induction cs with
  | nil => rfl
  | cons c cs ih =>
    by_cases hclose : c = ']'
    · subst hclose
      rfl
    by_cases hopen : c = '['
    · subst hopen
      rfl
    have hkeep : (c != '[' && c != ']') = true := by simp [hopen, hclose]
    rw [closesTag_cons hopen hclose, ih, List.takeWhile_cons, if_pos hkeep, List.length_cons,
      List.drop_succ_cons]

/-- A tag is there iff its first character can begin one and its bracket is closed. -/
theorem isSome_tagBody?_cons (c : Char) (cs : List Char) :
    (tagBody? (c :: cs)).isSome = (isTagStart c && closesTag cs) := by
  rw [closesTag_eq]
  simp only [tagBody?]
  split_ifs with h
  · rw [h]
    rfl
  · rw [Bool.eq_false_iff.mpr h]
    rfl

theorem ne_bracket_of_isTagStart {c : Char} (h : isTagStart c = true) : c ≠ '[' ∧ c ≠ ']' := by
  constructor <;> · rintro rfl; exact absurd h (by decide)

theorem closesTag_of_isSome_tagBody? {cs : List Char} (h : (tagBody? cs).isSome = true) :
    closesTag cs = true := by
  cases cs with
  | nil => cases h
  | cons c cs =>
    rw [isSome_tagBody?_cons, Bool.and_eq_true] at h
    obtain ⟨hopen, hclose⟩ := ne_bracket_of_isTagStart h.1
    rw [closesTag_cons hopen hclose]
    exact h.2

/-! ## Steps of a reader -/

section Steps

variable {slashes : Nat} {opened opened' : List String} {c : Char} {cs body : List Char}

theorem isSome_plainFrom_slash :
    (plainFrom slashes .outside opened ('\\' :: cs)).isSome =
      (plainFrom (slashes + 1) .outside opened cs).isSome := by
  rw [plainFrom, if_pos rfl]

theorem isSome_plainFrom_char (hslash : c ≠ '\\') (hopen : c ≠ '[') :
    (plainFrom slashes .outside opened (c :: cs)).isSome =
      (plainFrom 0 .outside opened cs).isSome := by
  rw [plainFrom, if_neg hslash, if_neg hopen, Option.isSome_map]

/-- A bracket that begins no tag stands for itself. -/
theorem isSome_plainFrom_bracket (h : tagBody? cs = none) :
    (plainFrom slashes .outside opened ('[' :: cs)).isSome =
      (plainFrom 0 .outside opened cs).isSome := by
  rw [plainFrom, if_neg (by decide), if_pos rfl, h]
  exact Option.isSome_map

/-- A tag after an odd number of backslashes stands for itself. -/
theorem isSome_plainFrom_escapedTag (h : (tagBody? cs).isSome = true) (hodd : slashes % 2 = 1) :
    (plainFrom slashes .outside opened ('[' :: cs)).isSome =
      (plainFrom 0 .kept opened cs).isSome := by
  obtain ⟨body, hbody⟩ := Option.isSome_iff_exists.mp h
  rw [plainFrom, if_neg (by decide), if_pos rfl, hbody]
  simp only [if_pos hodd, Option.isSome_map]

/-- Another tag does not show, if it closes an open one or none. -/
theorem isSome_plainFrom_tag (h : tagBody? cs = some body)
    (henter : enterTag opened body = some opened') (heven : slashes % 2 ≠ 1) :
    (plainFrom slashes .outside opened ('[' :: cs)).isSome =
      (plainFrom 0 .hidden opened' cs).isSome := by
  rw [plainFrom, if_neg (by decide), if_pos rfl, h]
  simp only [if_neg heven, henter, Option.isSome_map]

theorem isSome_plainFrom_kept :
    (plainFrom slashes .kept opened (c :: cs)).isSome =
      (plainFrom 0 (if c = ']' then .outside else .kept) opened cs).isSome := by
  rw [plainFrom, Option.isSome_map]

/-- Backslashes are counted until something else comes. -/
theorem isSome_plainFrom_replicate (m : Nat) :
    (plainFrom slashes .outside opened (List.replicate m '\\' ++ cs)).isSome =
      (plainFrom (slashes + m) .outside opened cs).isSome := by
  induction m generalizing slashes with
  | zero => rfl
  | succ m ih =>
    rw [List.replicate_succ, List.cons_append, isSome_plainFrom_slash, ih, Nat.add_right_comm,
      Nat.add_assoc]

end Steps

/-! ## Escaped text -/

section Escaped

variable {rest : List Char}

/-- Escaping neither closes a bracket nor keeps it open. -/
theorem closesTag_escapeFrom (hrest : closesTag rest = false) (slashes : Nat) (cs : List Char) :
    closesTag (escapeFrom slashes cs ++ rest) = closesTag cs := by
  induction cs generalizing slashes with
  | nil => exact hrest
  | cons c cs ih =>
    unfold escapeFrom
    split_ifs with hslash htag
    · rw [List.cons_append, hslash, closesTag_cons (by decide) (by decide),
        closesTag_cons (by decide) (by decide), ih]
    · have hreplicate (m : Nat) (tail : List Char) :
          closesTag (List.replicate m '\\' ++ '[' :: tail) = false := by
        induction m with
        | zero => rfl
        | succ m ihm =>
          rw [List.replicate_succ, List.cons_append, closesTag_cons (by decide) (by decide), ihm]
      rw [List.append_assoc, htag.1, List.cons_append, hreplicate]
      rfl
    · rw [List.cons_append, closesTag, closesTag, ih]

/-- A tag is there in an escaped text and what follows iff it is there in the text. -/
theorem isSome_tagBody?_escapeFrom (hrest : closesTag rest = false) (cs : List Char) :
    (tagBody? (escapeFrom 0 cs ++ rest)).isSome = (tagBody? cs).isSome := by
  cases cs with
  | nil =>
    refine Bool.eq_false_iff.mpr fun h => ?_
    exact Bool.eq_false_iff.mp hrest (closesTag_of_isSome_tagBody? h)
  | cons c cs =>
    unfold escapeFrom
    split_ifs with hslash htag
    · rw [List.cons_append, isSome_tagBody?_cons, isSome_tagBody?_cons, hslash]
      rfl
    · rw [List.append_assoc, List.replicate_succ, List.cons_append, isSome_tagBody?_cons,
        isSome_tagBody?_cons, htag.1]
      rfl
    · rw [List.cons_append, isSome_tagBody?_cons, isSome_tagBody?_cons,
        closesTag_escapeFrom hrest]

variable {opened : List String}

/-- An escaped text shows, and so does what is left of a tag in it that stands for itself, if what
follows shows after any number of backslashes. -/
theorem isSome_plainFrom_escapeFrom (hcloses : closesTag rest = false)
    (hrest : ∀ slashes, (plainFrom slashes .outside opened rest).isSome = true) (cs : List Char) :
    (∀ slashes, (plainFrom slashes .outside opened (escapeFrom slashes cs ++ rest)).isSome = true) ∧
      ∀ slashes, closesTag cs = true →
        (plainFrom 0 .kept opened (escapeFrom slashes cs ++ rest)).isSome = true := by
  -- an escaped tag stands for itself up to its end, so the two regions are gone through together
  induction cs with
  | nil => exact ⟨hrest, fun _ h => absurd h Bool.false_ne_true⟩
  | cons c cs ih =>
    obtain ⟨houtside, hkept⟩ := ih
    have htags := isSome_tagBody?_escapeFrom hcloses cs
    refine ⟨fun slashes => ?_, fun slashes hclosed => ?_⟩
    · unfold escapeFrom
      by_cases hslash : c = '\\'
      · rw [if_pos hslash, List.cons_append, hslash, isSome_plainFrom_slash]
        exact houtside (slashes + 1)
      by_cases htag : c = '[' ∧ (tagBody? cs).isSome = true
      · obtain ⟨hopen, hbody⟩ := htag
        have hodd : (slashes + (slashes + 1)) % 2 = 1 := by omega
        rw [if_neg hslash, if_pos ⟨hopen, hbody⟩, List.append_assoc, isSome_plainFrom_replicate,
          List.cons_append, hopen, isSome_plainFrom_escapedTag (htags.trans hbody) hodd]
        exact hkept 0 (closesTag_of_isSome_tagBody? hbody)
      rw [if_neg hslash, if_neg htag, List.cons_append]
      by_cases hopen : c = '['
      · have hnone : (tagBody? cs).isSome = false := by simpa [hopen] using htag
        rw [hnone, Option.isSome_eq_false_iff, Option.isNone_iff_eq_none] at htags
        rw [hopen, isSome_plainFrom_bracket htags]
        exact houtside 0
      · rw [isSome_plainFrom_char hslash hopen]
        exact houtside 0
    · have hopen : c ≠ '[' := by
        rintro rfl
        cases hclosed
      have hnotag : ¬(c = '[' ∧ (tagBody? cs).isSome = true) := fun htag => hopen htag.1
      unfold escapeFrom
      by_cases hclose : c = ']'
      · have hslash : c ≠ '\\' := by
          rw [hclose]
          decide
        rw [if_neg hslash, if_neg hnotag, List.cons_append, isSome_plainFrom_kept, if_pos hclose]
        exact houtside 0
      rw [closesTag_cons hopen hclose] at hclosed
      by_cases hslash : c = '\\'
      · rw [if_pos hslash, List.cons_append, isSome_plainFrom_kept, if_neg hclose]
        exact hkept (slashes + 1) hclosed
      · rw [if_neg hslash, if_neg hnotag, List.cons_append, isSome_plainFrom_kept, if_neg hclose]
        exact hkept 0 hclosed

end Escaped

/-- A single backslash at the end, doubled or not, does not change what follows. -/
theorem isSome_plainFrom_escape {rest : List Char} {opened : List String}
    (hcloses : closesTag rest = false)
    (hrest : ∀ slashes, (plainFrom slashes .outside opened rest).isSome = true) (s : String) :
    (plainFrom 0 .outside opened ((escape s).toList ++ rest)).isSome = true := by
  have hchars : ∃ rest', (escape s).toList ++ rest = escapeFrom 0 s.toList ++ rest' ∧
      closesTag rest' = false ∧
      ∀ slashes, (plainFrom slashes .outside opened rest').isSome = true := by
    unfold escape
    rw [String.toList_ofList]
    split
    · refine ⟨'\\' :: rest, List.append_assoc _ _ _, ?_, fun slashes => ?_⟩
      · rw [closesTag_cons (by decide) (by decide), hcloses]
      · rw [isSome_plainFrom_slash]
        exact hrest (slashes + 1)
    · exact ⟨rest, rfl, hcloses, hrest⟩
  obtain ⟨rest', hchars, hcloses', hrest'⟩ := hchars
  rw [hchars]
  exact (isSome_plainFrom_escapeFrom hcloses' hrest' s.toList).1 0

/-! ## Messages -/

/-- A part of a message: a literal, a tag that opens or closes a style, or an escaped text. -/
inductive Part where
  | literal (text : String)
  | opening (style : String)
  | closing (style : String)
  | escaped (text : String)

/-- The characters of a part, given how texts are escaped. -/
def Part.chars (escape : String → String) : Part → List Char
  | literal text => text.toList
  | opening style => '[' :: (style.toList ++ [']'])
  | closing style => '[' :: '/' :: (style.toList ++ [']'])
  | escaped text => (escape text).toList

/-- The message of some parts. -/
def message (escape : String → String) (parts : List Part) : String :=
  String.ofList (parts.flatMap (Part.chars escape))

/-- Whether a character stands for itself wherever it is. -/
def isLiteralChar (c : Char) : Bool := c != '[' && c != ']' && c != '\\'

/-- Whether a character is a lowercase ASCII letter. -/
def isSmallLetter (c : Char) : Bool := decide ('a' ≤ c) && decide (c ≤ 'z')

/-- Whether a text is the name of a style: lowercase letters and spaces, a letter first. -/
def isStyleName (style : String) : Bool :=
  match style.toList with
  | [] => false
  | c :: cs => isSmallLetter c && cs.all fun d => isSmallLetter d || d == ' '

/-- Whether a bracket before a message stays open up to the next tag. -/
def staysOpen : List Part → Bool
  | .literal text :: rest => text.toList.all isLiteralChar && staysOpen rest
  | .escaped _ :: _ => false
  | _ => true

/-- Whether the tags of a message fit, given the open styles, the last one first, and whether
backslashes may stand before.  Each tag closes the style that was opened last.  A closing tag behind
backslashes may fail to count. -/
def isWellTagged (behindSlashes : Bool) (opened : List String) : List Part → Bool
  | [] => true
  | .literal text :: rest =>
    text != "" && text.toList.all isLiteralChar && isWellTagged false opened rest
  | .opening style :: rest =>
    isStyleName style && !behindSlashes && isWellTagged false (style :: opened) rest
  | .closing style :: rest =>
    isStyleName style && opened.head? == some style && isWellTagged false opened.tail rest &&
      (!behindSlashes || isWellTagged false opened rest)
  | .escaped _ :: rest => !behindSlashes && staysOpen rest && isWellTagged true opened rest

section Literals

variable {slashes : Nat} {opened : List String} {cs rest : List Char}

theorem isLiteralChar_iff {c : Char} :
    isLiteralChar c = true ↔ c ≠ '[' ∧ c ≠ ']' ∧ c ≠ '\\' := by
  simp [isLiteralChar, and_assoc]

theorem closesTag_literal_append (h : cs.all isLiteralChar = true) :
    closesTag (cs ++ rest) = closesTag rest := by
  induction cs with
  | nil => rfl
  | cons c cs ih =>
    rw [List.all_cons, Bool.and_eq_true, isLiteralChar_iff] at h
    obtain ⟨⟨hopen, hclose, -⟩, hcs⟩ := h
    rw [List.cons_append, closesTag_cons hopen hclose, ih hcs]

theorem isSome_plainFrom_literal_append (h : cs.all isLiteralChar = true) (hne : cs ≠ []) :
    (plainFrom slashes .outside opened (cs ++ rest)).isSome =
      (plainFrom 0 .outside opened rest).isSome := by
  induction cs generalizing slashes with
  | nil => exact absurd rfl hne
  | cons c cs ih =>
    rw [List.all_cons, Bool.and_eq_true, isLiteralChar_iff] at h
    obtain ⟨⟨hopen, -, hslash⟩, hcs⟩ := h
    rw [List.cons_append, isSome_plainFrom_char hslash hopen]
    cases cs with
    | nil => rfl
    | cons d cs => exact ih hcs (List.cons_ne_nil d cs)

/-- The inside of a tag is left behind, whether it shows or not. -/
theorem isSome_plainFrom_inside {region : Region} (hregion : region ≠ .outside)
    (h : cs.all isLiteralChar = true) :
    (plainFrom slashes region opened (cs ++ ']' :: rest)).isSome =
      (plainFrom 0 .outside opened rest).isSome := by
  induction cs generalizing slashes with
  | nil =>
    cases region with
    | outside => exact absurd rfl hregion
    | hidden => rfl
    | kept => rw [List.nil_append, isSome_plainFrom_kept, if_pos rfl]
  | cons c cs ih =>
    rw [List.all_cons, Bool.and_eq_true, isLiteralChar_iff] at h
    obtain ⟨⟨-, hclose, -⟩, hcs⟩ := h
    rw [List.cons_append, ← @ih 0 hcs]
    cases region with
    | outside => exact absurd rfl hregion
    | hidden => rw [plainFrom, if_neg hclose]
    | kept => rw [isSome_plainFrom_kept, if_neg hclose]

theorem isTagStart_of_isSmallLetter {c : Char} (h : isSmallLetter c = true) :
    isTagStart c = true := by
  rw [isSmallLetter] at h
  rw [isTagStart, h]
  rfl

theorem isLiteralChar_of_isTagStart {c : Char} (h : isTagStart c = true) :
    isLiteralChar c = true := by
  obtain ⟨hopen, hclose⟩ := ne_bracket_of_isTagStart h
  refine isLiteralChar_iff.mpr ⟨hopen, hclose, ?_⟩
  rintro rfl
  exact absurd h (by decide)

theorem tagBody?_append {c : Char} (hstart : isTagStart c = true)
    (hcs : cs.all isLiteralChar = true) :
    tagBody? (c :: cs ++ ']' :: rest) = some (c :: cs) := by
  have hbody : (cs ++ ']' :: rest).takeWhile (fun d => d != '[' && d != ']') = cs := by
    rw [List.takeWhile_append_of_pos]
    · exact List.append_nil cs
    · intro d hd
      obtain ⟨hopen, hclose, -⟩ := isLiteralChar_iff.mp (List.all_eq_true.mp hcs d hd)
      simp [hopen, hclose]
  simp only [List.cons_append, tagBody?, hbody, hstart, List.drop_left]
  rfl

end Literals

/-! ## Styles -/

section Styles

variable {style : String} {opened : List String}

theorem exists_cons_of_isStyleName (h : isStyleName style = true) :
    ∃ c cs, style.toList = c :: cs ∧ isSmallLetter c = true ∧ cs.all isLiteralChar = true := by
  unfold isStyleName at h
  split at h
  · cases h
  · next c cs hchars =>
    rw [Bool.and_eq_true] at h
    refine ⟨c, cs, hchars, h.1, List.all_eq_true.mpr fun d hd => ?_⟩
    rcases Bool.or_eq_true_iff.mp (List.all_eq_true.mp h.2 d hd) with hletter | hspace
    · exact isLiteralChar_of_isTagStart (isTagStart_of_isSmallLetter hletter)
    · rw [eq_of_beq hspace]
      decide

theorem all_isLiteralChar_of_isStyleName (h : isStyleName style = true) :
    style.toList.all isLiteralChar = true := by
  obtain ⟨c, cs, hchars, hletter, hcs⟩ := exists_cons_of_isStyleName h
  rw [hchars, List.all_cons, hcs,
    isLiteralChar_of_isTagStart (isTagStart_of_isSmallLetter hletter)]
  rfl

theorem tagBody?_opening (h : isStyleName style = true) (rest : List Char) :
    tagBody? (style.toList ++ ']' :: rest) = some style.toList := by
  obtain ⟨c, cs, hchars, hletter, hcs⟩ := exists_cons_of_isStyleName h
  rw [hchars]
  exact tagBody?_append (isTagStart_of_isSmallLetter hletter) hcs

theorem tagBody?_closing (h : isStyleName style = true) (rest : List Char) :
    tagBody? ('/' :: style.toList ++ ']' :: rest) = some ('/' :: style.toList) :=
  tagBody?_append (by decide) (all_isLiteralChar_of_isStyleName h)

theorem enterTag_opening (h : isStyleName style = true) :
    enterTag opened style.toList = some (style :: opened) := by
  obtain ⟨c, cs, hchars, hletter, -⟩ := exists_cons_of_isStyleName h
  have hslash : c ≠ '/' := by
    rintro rfl
    cases hletter
  rw [← String.ofList_toList (s := style), String.toList_ofList, hchars]
  unfold enterTag
  split
  · next heq => exact absurd (List.cons.inj heq).1 hslash
  · next heq => exact absurd (List.cons.inj heq).1 hslash
  · rfl

/-- The style that was opened last can be closed. -/
theorem enterTag_closing (h : isStyleName style = true) (hopened : opened.head? = some style) :
    enterTag opened ('/' :: style.toList) = some opened.tail := by
  obtain ⟨c, cs, hchars, -⟩ := exists_cons_of_isStyleName h
  obtain ⟨tail, rfl⟩ := List.head?_eq_some_iff.mp hopened
  unfold enterTag
  split
  · next heq =>
    rw [hchars] at heq
    cases heq
  · next name _ heq =>
    rw [← (List.cons.inj heq).2, String.ofList_toList]
    simp
  · next hnot => exact absurd rfl (hnot _)

end Styles

/-! ## Messages whose tags fit -/

section Messages

variable {parts : List Part} {behindSlashes : Bool} {opened : List String}

theorem closesTag_of_staysOpen (h : staysOpen parts = true) :
    closesTag (parts.flatMap (Part.chars escape)) = false := by
  induction parts with
  | nil => rfl
  | cons part rest ih =>
    rw [List.flatMap_cons]
    cases part with
    | literal text =>
      rw [staysOpen, Bool.and_eq_true] at h
      rw [Part.chars, closesTag_literal_append h.1]
      exact ih h.2
    | escaped text => cases h
    | opening style => rfl
    | closing style => rfl

/-- A reader goes through a message whose tags fit, if it comes to it with backslashes only where
these are reckoned with. -/
theorem isSome_plainFrom_of_isWellTagged (h : isWellTagged behindSlashes opened parts = true)
    (slashes : Nat) (hslashes : behindSlashes = false → slashes = 0) :
    (plainFrom slashes .outside opened (parts.flatMap (Part.chars escape))).isSome = true := by
  induction parts generalizing behindSlashes opened slashes with
  | nil => rfl
  | cons part rest ih =>
    rw [List.flatMap_cons]
    cases part with
    | literal text =>
      simp only [isWellTagged, Bool.and_eq_true, bne_iff_ne] at h
      obtain ⟨⟨hne, hliteral⟩, hrest⟩ := h
      have hchars : text.toList ≠ [] := fun hnil => hne (String.toList_eq_nil_iff.mp hnil)
      rw [Part.chars, isSome_plainFrom_literal_append hliteral hchars]
      exact ih hrest 0 fun _ => rfl
    | opening style =>
      simp only [isWellTagged, Bool.and_eq_true, Bool.not_eq_true'] at h
      obtain ⟨⟨hstyle, hbehind⟩, hrest⟩ := h
      rw [hslashes hbehind, Part.chars, List.cons_append, List.append_assoc, List.singleton_append,
        isSome_plainFrom_tag (tagBody?_opening hstyle _) (enterTag_opening hstyle) (by decide),
        isSome_plainFrom_inside (by decide) (all_isLiteralChar_of_isStyleName hstyle)]
      exact ih hrest 0 fun _ => rfl
    | closing style =>
      simp only [isWellTagged, Bool.and_eq_true, Bool.or_eq_true, Bool.not_eq_true',
        beq_iff_eq] at h
      obtain ⟨⟨⟨hstyle, hopened⟩, hrest⟩, hescaped⟩ := h
      have hinside : ('/' :: style.toList).all isLiteralChar = true :=
        all_isLiteralChar_of_isStyleName hstyle
      have hbody := tagBody?_closing hstyle (rest.flatMap (Part.chars escape))
      rw [Part.chars, List.cons_append, List.cons_append, List.append_assoc, List.singleton_append]
      rw [List.cons_append] at hbody
      by_cases hodd : slashes % 2 = 1
      · have hrest' : isWellTagged false opened rest = true := by
          refine hescaped.resolve_left fun hbehind => ?_
          rw [hslashes hbehind] at hodd
          cases hodd
        rw [isSome_plainFrom_escapedTag (by rw [hbody]; rfl) hodd, ← List.cons_append,
          isSome_plainFrom_inside (by decide) hinside]
        exact ih hrest' 0 fun _ => rfl
      · rw [isSome_plainFrom_tag hbody (enterTag_closing hstyle hopened) hodd, ← List.cons_append,
          isSome_plainFrom_inside (by decide) hinside]
        exact ih hrest 0 fun _ => rfl
    | escaped text =>
      simp only [isWellTagged, Bool.and_eq_true, Bool.not_eq_true'] at h
      obtain ⟨⟨hbehind, hopen⟩, hrest⟩ := h
      rw [hslashes hbehind]
      exact isSome_plainFrom_escape (closesTag_of_staysOpen hopen)
        (fun slashes => ih hrest slashes fun h => by cases h) text

/-- A message whose tags fit shows, whatever the texts in it are. -/
theorem isSome_plain?_message (h : isWellTagged false [] parts = true) :
    (plain? (message escape parts)).isSome = true := by
  rw [plain?, Option.isSome_map, message, String.toList_ofList]
  exact isSome_plainFrom_of_isWellTagged h 0 fun _ => rfl

end Messages

/-- A text without opening brackets shows. -/
theorem isSome_plain?_of_notMem {s : String} (h : '[' ∉ s.toList) : (plain? s).isSome = true := by
  have hchars : ∀ (cs : List Char) (slashes : Nat), '[' ∉ cs →
      (plainFrom slashes .outside [] cs).isSome = true := by
    intro cs
    induction cs with
    | nil => exact fun _ _ => rfl
    | cons c cs ih =>
      intro slashes hmem
      obtain ⟨hopen, hcs⟩ := not_or.mp (mt List.mem_cons.mpr hmem)
      by_cases hslash : c = '\\'
      · rw [hslash, isSome_plainFrom_slash]
        exact ih (slashes + 1) hcs
      · rw [isSome_plainFrom_char hslash (Ne.symm hopen)]
        exact ih 0 hcs
  rw [plain?, Option.isSome_map]
  exact hchars s.toList 0 h

end JobChain.Text.Markup
