import JobChain.Json.Reader
import JobChain.Json.Writer
import JobChain.Proofs.Text.Encoding
import Mathlib.Tactic.IntervalCases

/-!
# Strings and integers in JSON text

A string is written between quotation marks, with escapes for whatever is not a printable character
of ASCII, and read back as its code units.  An integer is written in decimal digits; it is read back
if what follows ends it, so that no digit, fraction or exponent is taken for a part of it.

* `EscapedAs`, `readUnits_escapeChar`: the three forms of a character, each read back as its units.
* `readString_flatMap_escapeChar`: a string is read back.
* `IsEnd`: what ends a number in the text of a value.
* `readAtom_toString`: an integer of any size is read back.
-/

namespace JobChain.Json

open Text (hexDigit hexDigits)
open Text.Encoding (units16 charsOfUnits)

/-! ## Strings -/

theorem hexValue?_hexDigit {d : Nat} (h : d < 16) : hexValue? (hexDigit d) = some d := by
  interval_cases d <;> decide

/-- Four digits are those of a unit. -/
theorem exists_hexDigits {n : Nat} (h : n < 0x10000) :
    ∃ a b c d, hexDigits 4 n = [a, b, c, d] ∧ hexValue4? a b c d = some n := by
  refine ⟨_, _, _, _, rfl, ?_⟩
  have hdigit : ∀ m, hexValue? (hexDigit (m % 16)) = some (m % 16) := fun m =>
    hexValue?_hexDigit (Nat.mod_lt m (by decide))
  simp only [hexValue4?, hdigit, Option.bind_eq_bind, Option.bind_some, Option.pure_def]
  congr 1
  omega

section Strings

variable {opened : Nat} {tail rest : List Char} {us : List Nat}

/-- Something is left where units are read. -/
theorem ne_nil_of_readUnits (h : readUnits opened tail = .ok (us, rest)) : tail ≠ [] := by
  rintro rfl
  cases h

/-- A unit is read back from its escape in four digits. -/
theorem readUnits_escapeUnit {n : Nat} (hn : n < 0x10000)
    (h : readUnits opened tail = .ok (us, rest)) :
    readUnits opened (escapeUnit n ++ tail) = .ok (n :: us, rest) := by
  obtain ⟨a, b, c, d, hdigits, hvalue⟩ := exists_hexDigits hn
  have hmore : tail.isEmpty = false := List.isEmpty_eq_false_iff.mpr (ne_nil_of_readUnits h)
  simp only [escapeUnit, hdigits, List.cons_append, List.nil_append, readUnits, hvalue, hmore, h,
    consUnit, Bool.false_eq_true, if_false]

/-- A character is read back from its short escape. -/
theorem readUnits_shortEscape {c e : Char} (he : shortEscape? e = some c)
    (h : readUnits opened tail = .ok (us, rest)) :
    readUnits opened ('\\' :: e :: tail) = .ok (c.toNat :: us, rest) := by
  have hu : e ≠ 'u' := by
    rintro rfl
    cases he
  rw [readUnits]
  · simp only [if_neg hu, he, h, consUnit]
  · exact fun _ _ _ _ _ heq => absurd heq hu

/-- A character that needs no escape is read as itself. -/
theorem readUnits_cons {c : Char} (hquote : c ≠ '"') (hbackslash : c ≠ '\\') (hc : 0x20 ≤ c.toNat)
    (h : readUnits opened tail = .ok (us, rest)) :
    readUnits opened (c :: tail) = .ok (c.toNat :: us, rest) := by
  rw [readUnits]
  · simp only [if_neg (Nat.not_lt.mpr hc), h, consUnit]
  · exact hquote
  all_goals simp [hbackslash]

/-- How a character is written: by a short escape, as itself, or by its units. -/
inductive EscapedAs (c : Char) : List Char → Prop
  | short {e : Char} (he : shortEscape? e = some c) (hc : c.toNat < 0x80) : EscapedAs c ['\\', e]
  | plain (hquote : c ≠ '"') (hbackslash : c ≠ '\\') (hc : 0x20 ≤ c.toNat ∧ c.toNat < 0x80) :
    EscapedAs c [c]
  | units : EscapedAs c ((units16 c).flatMap escapeUnit)

theorem escapedAs_escapeChar (c : Char) : EscapedAs c (escapeChar c) := by
  have hcode : ∀ n, c.toNat = n → c = Char.ofNat n := fun n h => by rw [← h, Char.ofNat_toNat]
  unfold escapeChar
  split_ifs with hquote hbackslash hn hr ht hb hf hplain
  · exact .short (by rw [hquote]; rfl) (by rw [hquote]; decide)
  · exact .short (by rw [hbackslash]; rfl) (by rw [hbackslash]; decide)
  · exact .short (by rw [hn]; rfl) (by rw [hn]; decide)
  · exact .short (by rw [hr]; rfl) (by rw [hr]; decide)
  · exact .short (by rw [ht]; rfl) (by rw [ht]; decide)
  · exact .short (by rw [hcode 8 hb]; rfl) (by omega)
  · exact .short (by rw [hcode 12 hf]; rfl) (by omega)
  · exact .plain hquote hbackslash (by omega)
  · exact .units

theorem units16_of_lt {c : Char} (h : c.toNat < 0x80) : units16 c = [c.toNat] := if_pos (by omega)

/-- Units are read back from their escapes. -/
theorem readUnits_flatMap_escapeUnit {ns : List Nat} (hns : ∀ n ∈ ns, n < 0x10000)
    (h : readUnits opened tail = .ok (us, rest)) :
    readUnits opened (ns.flatMap escapeUnit ++ tail) = .ok (ns ++ us, rest) := by
  induction ns with
  | nil => exact h
  | cons n ns ih =>
    obtain ⟨hn, hns⟩ := List.forall_mem_cons.mp hns
    rw [List.flatMap_cons, List.append_assoc]
    exact readUnits_escapeUnit hn (ih hns)

/-- A character is read back as its units. -/
theorem readUnits_escapeChar (c : Char) (h : readUnits opened tail = .ok (us, rest)) :
    readUnits opened (escapeChar c ++ tail) = .ok (units16 c ++ us, rest) := by
  have hform := escapedAs_escapeChar c
  generalize escapeChar c = form at hform
  cases hform with
  | short he hc =>
    rw [units16_of_lt hc]
    exact readUnits_shortEscape he h
  | plain hquote hbackslash hc =>
    rw [units16_of_lt hc.2]
    exact readUnits_cons hquote hbackslash hc.1 h
  | units => exact readUnits_flatMap_escapeUnit (fun n hn => Text.Encoding.lt_of_mem_units16 hn) h

/-- The inside of a string is read back up to the mark that closes it. -/
theorem readUnits_flatMap_escapeChar (opened : Nat) (cs rest : List Char) :
    readUnits opened (cs.flatMap escapeChar ++ '"' :: rest) = .ok (cs.flatMap units16, rest) := by
  induction cs with
  | nil => simp [readUnits]
  | cons c cs ih =>
    rw [List.flatMap_cons, List.flatMap_cons, List.append_assoc]
    exact readUnits_escapeChar c ih

/-- A string is read back. -/
theorem readString_flatMap_escapeChar (s : String) (rest : List Char) :
    readString (s.toList.flatMap escapeChar ++ '"' :: rest) = .ok (s, rest) := by
  rw [readString, readUnits_flatMap_escapeChar]
  simp only [Text.Encoding.charsOfUnits_flatMap_units16, String.ofList_toList]

end Strings

/-! ## Integers -/

/-- What ends a number in the text of a value: nothing more, a comma, or a closing mark. -/
inductive IsEnd : List Char → Prop
  | nil : IsEnd []
  | comma (rest : List Char) : IsEnd (',' :: rest)
  | bracket (rest : List Char) : IsEnd (']' :: rest)
  | brace (rest : List Char) : IsEnd ('}' :: rest)

section Numbers

variable {rest ds : List Char}

theorem digitsValue_eq (acc : Nat) (ds : List Char) :
    digitsValue acc ds = Nat.ofDigitChars 10 ds acc := by
  induction ds generalizing acc with
  | nil => rfl
  | cons d ds ih =>
    rw [Nat.ofDigitChars_cons, ← ih, Nat.mul_comm]
    rfl

theorem isDigit_of_mem_toDigits {n : Nat} {c : Char} (h : c ∈ Nat.toDigits 10 n) :
    isDigit c = true := by
  have hdigit := Nat.isDigit_of_mem_toDigits (by decide) (by decide) h
  simpa [isDigit, Char.isDigit, Char.le_def] using hdigit

/-- A positive number has no zero in front. -/
theorem exists_toDigits {n : Nat} (h : 0 < n) : ∃ c ds, Nat.toDigits 10 n = c :: ds ∧ c ≠ '0' := by
  induction n using Nat.strongRecOn with
  | ind n ih =>
    rw [Nat.toDigits_eq_if (by decide)]
    by_cases hn : n < 10
    · refine ⟨_, _, if_pos hn, ?_⟩
      interval_cases n <;> decide
    · obtain ⟨c, ds, hdigits, hc⟩ := ih (n / 10) (by omega) (by omega)
      exact ⟨c, ds ++ [(n % 10).digitChar], by rw [if_neg hn, hdigits, List.cons_append], hc⟩

/-- Digits are taken up to the end. -/
theorem takeWhile_isDigit (hds : ∀ c ∈ ds, isDigit c = true) (hrest : IsEnd rest) :
    (ds ++ rest).takeWhile isDigit = ds := by
  rw [List.takeWhile_append_of_pos hds]
  cases hrest <;> simp [isDigit]

theorem dropWhile_isDigit (hds : ∀ c ∈ ds, isDigit c = true) (hrest : IsEnd rest) :
    (ds ++ rest).dropWhile isDigit = rest := by
  rw [List.dropWhile_append_of_pos hds]
  cases hrest <;> simp [isDigit]

theorem readWhole_toDigits (n : Nat) (hrest : IsEnd rest) :
    readWhole (Nat.toDigits 10 n ++ rest) = some (Nat.toDigits 10 n, rest) := by
  rcases Nat.eq_zero_or_pos n with rfl | hn
  · rfl
  · obtain ⟨c, ds, hdigits, hc⟩ := exists_toDigits hn
    have hall : ∀ d ∈ c :: ds, isDigit d = true := fun d hd =>
      isDigit_of_mem_toDigits (hdigits ▸ hd)
    obtain ⟨hfirst, hds⟩ := List.forall_mem_cons.mp hall
    rw [hdigits, List.cons_append, readWhole]
    · rw [if_pos hfirst, takeWhile_isDigit hds hrest, dropWhile_isDigit hds hrest]
    · exact hc

/-- A number that ends is an integer. -/
theorem readMagnitude_toDigits (negative : Bool) (n : Nat) (hrest : IsEnd rest) :
    readMagnitude negative (Nat.toDigits 10 n ++ rest) =
      some (int (if negative then -Int.ofNat n else Int.ofNat n), rest) := by
  have hfraction : readFraction rest = none := by cases hrest <;> rfl
  have hexponent : readExponent rest = none := by cases hrest <;> rfl
  have hvalue : digitsValue 0 (Nat.toDigits 10 n) = n := by
    rw [digitsValue_eq, Nat.ofDigitChars_toDigits (by decide) (by decide)]
  simp only [readMagnitude, readWhole_toDigits n hrest, hfraction, hexponent, hvalue,
    Option.getD_none, Option.isNone_none, Bool.and_self, if_true]

/-- The text of an integer: digits, with a sign in front of those of a negative one. -/
theorem exists_toList_toString (n : Int) :
    ∃ m : Nat, n = Int.ofNat m ∧ (toString n).toList = Nat.toDigits 10 m ∨
      n = -Int.ofNat m ∧ (toString n).toList = '-' :: Nat.toDigits 10 m := by
  have htext : ∀ m : Nat, (Nat.repr m).toList = Nat.toDigits 10 m := fun m => by
    rw [Nat.repr_eq_ofList_toDigits, String.toList_ofList]
  cases n with
  | ofNat m => exact ⟨m, .inl ⟨rfl, htext m⟩⟩
  | negSucc m =>
    refine ⟨m + 1, .inr ⟨rfl, ?_⟩⟩
    have hsign : toString (Int.negSucc m) = "-" ++ Nat.repr (m + 1) := rfl
    rw [hsign, String.toList_append, htext]
    rfl

/-- The first character of a number. -/
theorem exists_toDigits_eq_cons (n : Nat) :
    ∃ c ds, Nat.toDigits 10 n = c :: ds ∧ isDigit c = true := by
  obtain ⟨c, ds, hdigits⟩ := List.exists_cons_of_ne_nil (Nat.toDigits_ne_nil (n := n) (b := 10))
  exact ⟨c, ds, hdigits, isDigit_of_mem_toDigits (hdigits ▸ List.mem_cons_self)⟩

/-- The first character of the text of an integer. -/
theorem exists_toString_eq_cons (n : Int) :
    ∃ c cs, (toString n).toList = c :: cs ∧ (c = '-' ∨ isDigit c = true) := by
  obtain ⟨m, ⟨-, htext⟩ | ⟨-, htext⟩⟩ := exists_toList_toString n
  · obtain ⟨c, ds, hdigits, hc⟩ := exists_toDigits_eq_cons m
    exact ⟨c, ds, htext.trans hdigits, .inr hc⟩
  · exact ⟨'-', _, htext, .inl rfl⟩

/-- No word begins with a digit. -/
theorem readWord?_of_isDigit {c : Char} (hc : isDigit c = true) (s : List Char) :
    readWord? (c :: s) = none := by
  have hne : ∀ d, isDigit d = false → d ≠ c := by
    rintro d hd rfl
    exact Bool.false_ne_true (hd.symm.trans hc)
  simp [readWord?, words, afterWord?, hne _ (show isDigit 'n' = false from rfl),
    hne _ (show isDigit 't' = false from rfl), hne _ (show isDigit 'f' = false from rfl),
    hne _ (show isDigit 'N' = false from rfl), hne _ (show isDigit 'I' = false from rfl),
    hne _ (show isDigit '-' = false from rfl)]

/-- Nor does one that begins with a sign go on with a digit. -/
theorem readWord?_minus_of_isDigit {c : Char} (hc : isDigit c = true) (s : List Char) :
    readWord? ('-' :: c :: s) = none := by
  have hne : 'I' ≠ c := by
    rintro rfl
    cases hc
  simp [readWord?, words, afterWord?, hne]

/-- An integer is read back. -/
theorem readAtom_toString (n : Int) (hrest : IsEnd rest) :
    readAtom ((toString n).toList ++ rest) = .ok (int n, rest) := by
  obtain ⟨m, hform⟩ := exists_toList_toString n
  obtain ⟨c, ds, hdigits, hc⟩ := exists_toDigits_eq_cons m
  rcases hform with ⟨rfl, htext⟩ | ⟨rfl, htext⟩
  · have hsign : c ≠ '-' := by
      rintro rfl
      cases hc
    have hread := readMagnitude_toDigits false m hrest
    rw [htext]
    rw [hdigits, List.cons_append] at hread ⊢
    rw [readAtom, readWord?_of_isDigit hc, readNumber]
    · dsimp only
      rw [hread]
      rfl
    · simp [hsign]
  · have hread := readMagnitude_toDigits true m hrest
    rw [htext]
    rw [hdigits, List.cons_append] at hread
    rw [hdigits, List.cons_append, List.cons_append, readAtom, readWord?_minus_of_isDigit hc,
      readNumber]
    dsimp only
    rw [hread]
    rfl

end Numbers

end JobChain.Json
