import JobChain.Text.CodeRange

/-!
# Blank characters and trimming

A character is blank when it is a space, a line or paragraph separator, or one of the control
characters that separate text.  `trim` removes blank characters at both ends of a text and leaves
those inside alone.

A second, smaller class is `isUnicodeSpace`: the characters with the property `White_Space`.  It
differs from `isBlank` in the four information separators `U+001C` to `U+001F`, which are blank
without having that property; numbers written in text are surrounded by this smaller class.

* `trim_trim`: trimming is idempotent.
-/

namespace JobChain.Text

/-- The blank code points. -/
def blankRanges : List CodeRange :=
  [(0x09, 0x0D), (0x1C, 0x20), (0x85, 0x85), (0xA0, 0xA0), (0x1680, 0x1680), (0x2000, 0x200A),
    (0x2028, 0x2029), (0x202F, 0x202F), (0x205F, 0x205F), (0x3000, 0x3000)]

/-- Whether a character is blank. -/
def isBlank (c : Char) : Bool := inRanges blankRanges c.toNat

/-- Whether a character has the property `White_Space`. -/
def isUnicodeSpace (c : Char) : Bool :=
  isBlank c && !(decide (0x1C ≤ c.toNat) && decide (c.toNat ≤ 0x1F))

/-! ## Trimming lists -/

section Strip

variable {α : Type} (p : α → Bool)

/-- The list without the members at its end that satisfy `p`. -/
def dropEndWhile (l : List α) : List α := (l.reverse.dropWhile p).reverse

/-- The list without the members at either end that satisfy `p`. -/
def strip (l : List α) : List α := dropEndWhile p (l.dropWhile p)

@[simp] theorem dropEndWhile_nil : dropEndWhile p ([] : List α) = [] := rfl

@[simp] theorem strip_nil : strip p ([] : List α) = [] := rfl

theorem dropWhile_cons_of_neg {a : α} {l : List α} (h : p a = false) :
    (a :: l).dropWhile p = a :: l := by
  simp [List.dropWhile, h]

theorem dropWhile_dropWhile (l : List α) : (l.dropWhile p).dropWhile p = l.dropWhile p := by
  induction l with
  | nil => rfl
  | cons a l ih =>
    cases h : p a with
    | true => simpa [List.dropWhile, h] using ih
    | false => simp [List.dropWhile, h]

theorem dropEndWhile_dropEndWhile (l : List α) :
    dropEndWhile p (dropEndWhile p l) = dropEndWhile p l := by
  simp [dropEndWhile, dropWhile_dropWhile]

/-- Removing members from the end keeps a beginning of the list. -/
theorem dropEndWhile_isPrefix (l : List α) : dropEndWhile p l <+: l := by
  have h := List.dropWhile_suffix p (l := l.reverse)
  have := List.reverse_prefix.mpr h
  simpa [dropEndWhile] using this

/-- A list that does not begin with a member satisfying `p` still does not after its end has been
cut. -/
theorem dropWhile_dropEndWhile {l : List α} (h : l.dropWhile p = l) :
    (dropEndWhile p l).dropWhile p = dropEndWhile p l := by
  cases l with
  | nil => rfl
  | cons a l =>
    have ha : p a = false := by
      cases hp : p a with
      | false => rfl
      | true =>
        have hlen := congrArg List.length h
        have := (List.dropWhile_suffix p (l := l)).length_le
        simp [List.dropWhile, hp] at hlen
        omega
    have hpre := dropEndWhile_isPrefix p (a :: l)
    cases hd : dropEndWhile p (a :: l) with
    | nil => rfl
    | cons b m =>
      rw [hd] at hpre
      obtain ⟨t, ht⟩ := hpre
      rw [List.cons_append, List.cons.injEq] at ht
      exact dropWhile_cons_of_neg p (ht.1 ▸ ha)

/-- Stripping is idempotent. -/
theorem strip_strip (l : List α) : strip p (strip p l) = strip p l := by
  unfold strip
  rw [dropWhile_dropEndWhile p (dropWhile_dropWhile p l), dropEndWhile_dropEndWhile]

end Strip

/-- The characters of a text without the blank ones at its ends. -/
def trimChars (cs : List Char) : List Char := strip isBlank cs

/-- The text without the blank characters at its ends. -/
def trim (s : String) : String := String.ofList (trimChars s.toList)

@[simp] theorem toList_trim (s : String) : (trim s).toList = trimChars s.toList := by
  simp [trim]

/-- Trimming is idempotent. -/
@[simp] theorem trim_trim (s : String) : trim (trim s) = trim s := by
  simp [trim, trimChars, strip_strip]

end JobChain.Text
