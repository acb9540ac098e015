import JobChain.Json.Reader
import JobChain.Proofs.Text.Encoding

/-!
# Surrogates in pairs

An escape in a JSON text may name one half of a pair of surrogates.  A half on its own is no
character, and the reader takes the replacement character for it.  If the escapes of a text name
such halves in pairs only, then nothing is replaced: each string that is read has exactly the code
points that its characters and escapes name.

* `pairsEscapes`, `PairsSurrogates`: texts whose escapes name surrogates in pairs.
* `pointsOf`: the code points that units stand for, halves that stand alone among them.
* `toNat_of_readString`: a string of such a text is read as its code points.
-/

namespace JobChain.Json

open Text.Encoding (isHighSurrogate isLowSurrogate joinSurrogates charOfUnit charsOfUnits)

/-! ## Texts -/

/-- Whether the escapes of a text name surrogates in pairs only, if `high` tells whether the escape
just before names the first of a pair. -/
def pairsEscapes (high : Bool) : List Char → Bool
  | [] => !high
  | '\\' :: 'u' :: a :: b :: c :: d :: rest =>
    match hexValue4? a b c d with
    | some n =>
      if isHighSurrogate n then !high && pairsEscapes true rest
      else (isLowSurrogate n == high) && pairsEscapes false rest
    | none => !high && pairsEscapes false rest
  | '\\' :: _ :: rest => !high && pairsEscapes false rest
  | _ :: rest => !high && pairsEscapes false rest

/-- The escapes of a text name surrogates in pairs only. -/
def PairsSurrogates (text : String) : Prop := pairsEscapes false text.toList = true

instance (text : String) : Decidable (PairsSurrogates text) :=
  inferInstanceAs (Decidable (pairsEscapes false text.toList = true))

/-! ## Units -/

/-- Whether units hold surrogates in pairs only, if `high` tells whether the unit just before is the
first of a pair. -/
def arePaired (high : Bool) : List Nat → Bool
  | [] => !high
  | n :: rest =>
    if isHighSurrogate n then !high && arePaired true rest
    else (isLowSurrogate n == high) && arePaired false rest

/-- The code points that units stand for: those of pairs of surrogates, and all other units as they
are. -/
def pointsOf : List Nat → List Nat
  | [] => []
  | [n] => [n]
  | n :: m :: rest =>
    if isHighSurrogate n && isLowSurrogate m then (joinSurrogates n m).toNat :: pointsOf rest
    else n :: pointsOf (m :: rest)

section Units

variable {n m : Nat} {us : List Nat}

/-- A unit that is no surrogate is a character. -/
theorem toNat_charOfUnit (hn : n < 0x110000) (hhigh : isHighSurrogate n = false)
    (hlow : isLowSurrogate n = false) : (charOfUnit n).toNat = n := by
  unfold charOfUnit
  rw [hhigh, hlow]
  simp only [isHighSurrogate, isLowSurrogate, Bool.and_eq_false_iff, decide_eq_false_iff_not] at *
  have hvalid : n.isValidChar := by
    unfold Nat.isValidChar
    omega
  rw [if_neg (by decide), Char.ofNat, dif_pos hvalid]
  rfl

theorem isHighSurrogate_of_isLowSurrogate (h : isLowSurrogate n = true) :
    isHighSurrogate n = false := by
  simp only [isHighSurrogate, isLowSurrogate, Bool.and_eq_true, decide_eq_true_iff,
    Bool.and_eq_false_iff, decide_eq_false_iff_not] at *
  omega

/-- A pair of surrogates is left behind together. -/
theorem arePaired_of_pair (hhigh : isHighSurrogate n = true) (hlow : isLowSurrogate m = true) :
    arePaired false (n :: m :: us) = arePaired false us := by
  simp only [arePaired, hhigh, hlow, isHighSurrogate_of_isLowSurrogate hlow, if_true,
    Bool.false_eq_true, if_false, Bool.not_false, Bool.true_and, beq_self_eq_true]

/-- A unit that does not begin a pair is no surrogate, if surrogates come in pairs. -/
theorem not_surrogate_of_arePaired (h : arePaired false (n :: m :: us) = true)
    (hpair : (isHighSurrogate n && isLowSurrogate m) = false) :
    isHighSurrogate n = false ∧ isLowSurrogate n = false ∧ arePaired false (m :: us) = true := by
  cases hhigh : isHighSurrogate n with
  | true =>
    rw [hhigh, Bool.true_and] at hpair
    rw [arePaired, if_pos hhigh, arePaired, hpair] at h
    cases hm : isHighSurrogate m <;> simp [hm] at h
  | false =>
    rw [arePaired, hhigh, if_neg Bool.false_ne_true, Bool.and_eq_true, beq_iff_eq] at h
    exact ⟨rfl, h⟩

/-- Units with their surrogates in pairs are read as their code points. -/
theorem map_toNat_charsOfUnits (hus : ∀ u ∈ us, u < 0x110000) (h : arePaired false us = true) :
    (charsOfUnits us).map Char.toNat = pointsOf us := by
  fun_induction charsOfUnits us with
  | case1 => rfl
  | case2 n =>
    have hpair : arePaired false [n] = true ↔
        isHighSurrogate n = false ∧ isLowSurrogate n = false := by
      cases hhigh : isHighSurrogate n <;> simp [arePaired, hhigh]
    obtain ⟨hhigh, hlow⟩ := hpair.mp h
    rw [List.map_singleton, toNat_charOfUnit (hus n (by simp)) hhigh hlow]
    rfl
  | case3 n m rest hpair ih =>
    obtain ⟨hhigh, hlow⟩ := Bool.and_eq_true_iff.mp hpair
    rw [arePaired_of_pair hhigh hlow] at h
    rw [List.map_cons, pointsOf, if_pos hpair, ih (fun u hu => hus u (by simp [hu])) h]
  | case4 n m rest hpair ih =>
    obtain ⟨hhigh, hlow, hrest⟩ := not_surrogate_of_arePaired h (by simpa using hpair)
    rw [List.map_cons, pointsOf, if_neg hpair, toNat_charOfUnit (hus n (by simp)) hhigh hlow,
      ih (fun u hu => hus u (by simp [hu])) hrest]

end Units

/-! ## Reading -/

theorem hexValue?_lt {c : Char} {n : Nat} (h : hexValue? c = some n) : n < 16 := by
  unfold hexValue? at h
  split at h
  · next hdigit =>
    simp only [isDigit, Bool.and_eq_true, decide_eq_true_iff, Char.le_def] at hdigit
    cases h
    have hupper : c.toNat ≤ 57 := hdigit.2
    omega
  split at h
  · next hsmall =>
    cases h
    have hupper : c.toNat ≤ 102 := hsmall.2
    omega
  split at h
  · next hcapital =>
    cases h
    have hupper : c.toNat ≤ 70 := hcapital.2
    omega
  · cases h

theorem hexValue4?_lt {a b c d : Char} {n : Nat} (h : hexValue4? a b c d = some n) :
    n < 0x10000 := by
  simp only [hexValue4?, Option.bind_eq_bind, Option.bind_eq_some_iff, Option.pure_def,
    Option.some.injEq] at h
  obtain ⟨a', ha, b', hb, c', hc, d', hd, rfl⟩ := h
  have ha' := hexValue?_lt ha
  have hb' := hexValue?_lt hb
  have hc' := hexValue?_lt hc
  have hd' := hexValue?_lt hd
  omega

theorem consUnit_eq_ok_iff {n : Nat} {x : Except Stop (List Nat × List Char)} {us : List Nat}
    {rest : List Char} :
    consUnit n x = .ok (us, rest) ↔ ∃ later, x = .ok (later, rest) ∧ us = n :: later := by
  rcases x with e | ⟨later, rest'⟩
  · simp [consUnit]
  · simp only [consUnit, Except.ok.injEq, Prod.mk.injEq]
    constructor
    · rintro ⟨rfl, rfl⟩
      exact ⟨later, ⟨rfl, rfl⟩, rfl⟩
    · rintro ⟨_, ⟨rfl, rfl⟩, rfl⟩
      exact ⟨rfl, rfl⟩

section Steps

variable {high : Bool} {c e : Char} {cs : List Char}

theorem pairsEscapes_cons (h : c ≠ '\\') :
    pairsEscapes high (c :: cs) = (!high && pairsEscapes false cs) := by
  rw [pairsEscapes]
  all_goals simp [h]

theorem pairsEscapes_shortEscape (h : e ≠ 'u') :
    pairsEscapes high ('\\' :: e :: cs) = (!high && pairsEscapes false cs) := by
  rw [pairsEscapes]
  simp [h]

/-- A character is no surrogate. -/
theorem arePaired_toNat_cons (c : Char) (us : List Nat) :
    arePaired high (c.toNat :: us) = (!high && arePaired false us) := by
  rw [arePaired, Text.Encoding.isHighSurrogate_toNat, Text.Encoding.isLowSurrogate_toNat]
  cases high <;> rfl

end Steps

theorem toNat_lt (c : Char) : c.toNat < 0x110000 := by
  have hscalar := Text.toNat_lt_or_lt c
  omega

/-- The units of a string in a text whose escapes name surrogates in pairs hold them in pairs, and
what follows the string is such a text again. -/
theorem arePaired_of_readUnits {opened : Nat} {cs rest : List Char} {us : List Nat} {high : Bool}
    (h : readUnits opened cs = .ok (us, rest)) (hpairs : pairsEscapes high cs = true) :
    (∀ u ∈ us, u < 0x110000) ∧ arePaired high us = true ∧ pairsEscapes false rest = true := by
  fun_induction readUnits opened cs generalizing us high with
  | case2 =>
    cases h
    rw [pairsEscapes_cons (by decide), Bool.and_eq_true] at hpairs
    exact ⟨by simp, hpairs⟩
  | case5 a b c d cs n hn _ ih =>
    -- an escape in four digits, which may be one half of a pair
    obtain ⟨later, hlater, rfl⟩ := consUnit_eq_ok_iff.mp h
    have hlt := hexValue4?_lt hn
    rw [pairsEscapes, hn] at hpairs
    dsimp only at hpairs
    rw [arePaired]
    split at hpairs
    case isTrue hhigh =>
      rw [if_pos hhigh]
      obtain ⟨hbefore, hafter⟩ := Bool.and_eq_true_iff.mp hpairs
      obtain ⟨hlaterLt, hpaired, hrest⟩ := ih hlater hafter
      exact ⟨List.forall_mem_cons.mpr ⟨by omega, hlaterLt⟩,
        Bool.and_eq_true_iff.mpr ⟨hbefore, hpaired⟩, hrest⟩
    case isFalse hhigh =>
      rw [if_neg hhigh]
      obtain ⟨hbefore, hafter⟩ := Bool.and_eq_true_iff.mp hpairs
      obtain ⟨hlaterLt, hpaired, hrest⟩ := ih hlater hafter
      exact ⟨List.forall_mem_cons.mpr ⟨by omega, hlaterLt⟩,
        Bool.and_eq_true_iff.mpr ⟨hbefore, hpaired⟩, hrest⟩
  | case8 e cs _ hu c _ ih =>
    obtain ⟨later, hlater, rfl⟩ := consUnit_eq_ok_iff.mp h
    rw [pairsEscapes_shortEscape hu, Bool.and_eq_true] at hpairs
    obtain ⟨hlaterLt, hpaired, hrest⟩ := ih hlater hpairs.2
    rw [arePaired_toNat_cons, hpairs.1, hpaired]
    exact ⟨List.forall_mem_cons.mpr ⟨toNat_lt c, hlaterLt⟩, rfl, hrest⟩
  | case11 c cs _ hlast _ hescape _ ih =>
    obtain ⟨later, hlater, rfl⟩ := consUnit_eq_ok_iff.mp h
    have hbackslash : c ≠ '\\' := by
      intro hc
      cases cs with
      | nil => exact hlast hc rfl
      | cons e rest => exact hescape e rest hc rfl
    rw [pairsEscapes_cons hbackslash, Bool.and_eq_true] at hpairs
    obtain ⟨hlaterLt, hpaired, hrest⟩ := ih hlater hpairs.2
    rw [arePaired_toNat_cons, hpairs.1, hpaired]
    exact ⟨List.forall_mem_cons.mpr ⟨toNat_lt c, hlaterLt⟩, rfl, hrest⟩
  | _ => cases h

/-- A string of a text whose escapes name surrogates in pairs is read as its code points, and what
follows it is such a text again. -/
theorem toNat_of_readString {cs rest : List Char} {text : String}
    (h : readString cs = .ok (text, rest)) (hpairs : pairsEscapes false cs = true) :
    ∃ us, readUnits (cs.length + 1) cs = .ok (us, rest) ∧
      text.toList.map Char.toNat = pointsOf us ∧ pairsEscapes false rest = true := by
  unfold readString at h
  rcases hunits : readUnits (cs.length + 1) cs with e | ⟨us, rest'⟩
  · rw [hunits] at h
    cases h
  · rw [hunits] at h
    cases h
    obtain ⟨hlt, hpaired, hrest⟩ := arePaired_of_readUnits hunits hpairs
    refine ⟨us, rfl, ?_, hrest⟩
    rw [String.toList_ofList, map_toNat_charsOfUnits hlt hpaired]

end JobChain.Json
