import JobChain.Text.Encoding
import Mathlib.Data.List.Basic

/-!
# Texts that are encoded and decoded

What an encoding writes it reads back.  A character is no surrogate, so in two-byte units it is a
unit that stands alone or a pair that belongs together, and in bytes of variable width its lead byte
announces exactly the bytes that follow.

Which encoding a byte sequence is in can be told from its first bytes if the text begins with two
characters of ASCII that are not null: the nulls among the first four bytes then are those that the
encoding puts there, whatever follows, and without a mark nothing looks like one.

* `Encoding.charsOfUnits_flatMap_units16`: two-byte units are read back.
* `Utf8.decodeFrom_encode`: bytes of variable width are.
* `Encoding.chars_encode`: and so are all encodings.
* `BeginsAscii`: texts that begin so, with `Encoding.detect_encode` and
  `Encoding.detect_mark_append`: their encodings are found out.
* `decodeDetected_encode`, `decodeDetected_mark_append`: they are decoded.
-/

namespace JobChain.Text

theorem toNat_lt_or_lt (c : Char) : c.toNat < 0xD800 ∨ 0xDFFF < c.toNat ∧ c.toNat < 0x110000 :=
  c.valid

namespace Encoding

/-! ## Units of two bytes -/

theorem isHighSurrogate_toNat (c : Char) : isHighSurrogate c.toNat = false := by
  have hscalar := toNat_lt_or_lt c
  simp [isHighSurrogate]
  omega

theorem isLowSurrogate_toNat (c : Char) : isLowSurrogate c.toNat = false := by
  have hscalar := toNat_lt_or_lt c
  simp [isLowSurrogate]
  omega

/-- A character is read back from the unit that it is. -/
theorem charOfUnit_toNat (c : Char) : charOfUnit c.toNat = c := by
  rw [charOfUnit, isHighSurrogate_toNat, isLowSurrogate_toNat]
  exact Char.ofNat_toNat c

/-- The units of a character are read as the character, whatever follows. -/
theorem charsOfUnits_append (c : Char) (us : List Nat) :
    charsOfUnits (units16 c ++ us) = c :: charsOfUnits us := by
  unfold units16
  by_cases h : c.toNat < 0x10000
  · rw [if_pos h]
    cases us with
    | nil => simp [charsOfUnits, charOfUnit_toNat]
    | cons u us => simp [charsOfUnits, isHighSurrogate_toNat, charOfUnit_toNat]
  · have hscalar := toNat_lt_or_lt c
    have hpair : isHighSurrogate (0xD800 + (c.toNat - 0x10000) / 0x400) = true ∧
        isLowSurrogate (0xDC00 + (c.toNat - 0x10000) % 0x400) = true := by
      simp [isHighSurrogate, isLowSurrogate]
      omega
    have hjoin : joinSurrogates (0xD800 + (c.toNat - 0x10000) / 0x400)
        (0xDC00 + (c.toNat - 0x10000) % 0x400) = c := by
      unfold joinSurrogates
      have hcode : 0x10000 + (0xD800 + (c.toNat - 0x10000) / 0x400 - 0xD800) * 0x400 +
          (0xDC00 + (c.toNat - 0x10000) % 0x400 - 0xDC00) = c.toNat := by omega
      rw [hcode, Char.ofNat_toNat]
    simp [if_neg h, charsOfUnits, hpair, hjoin]

/-- A text is read back from its units. -/
theorem charsOfUnits_flatMap_units16 (cs : List Char) : charsOfUnits (cs.flatMap units16) = cs := by
  induction cs with
  | nil => rfl
  | cons c cs ih => rw [List.flatMap_cons, charsOfUnits_append, ih]

theorem lt_of_mem_units16 {c : Char} {u : Nat} (h : u ∈ units16 c) : u < 0x10000 := by
  have hscalar := toNat_lt_or_lt c
  unfold units16 at h
  simp only at h
  split at h
  · obtain rfl : u = c.toNat := by simpa using h
    assumption
  · simp only [List.mem_cons, List.not_mem_nil, or_false] at h
    omega

theorem toNat_ofNat {n : Nat} (h : n < 0x100) : (UInt8.ofNat n).toNat = n := by
  rw [UInt8.toNat_ofNat']
  exact Nat.mod_eq_of_lt h

/-- A unit is read back from its two bytes. -/
theorem exists_bytes16 (be : Bool) {n : Nat} (h : n < 0x10000) :
    ∃ a b, bytes16 be n = [a, b] ∧ unit16 be a b = n := by
  have hlow : (UInt8.ofNat (n % 0x100)).toNat = n % 0x100 := toNat_ofNat (by omega)
  have hhigh : (UInt8.ofNat (n / 0x100)).toNat = n / 0x100 := toNat_ofNat (by omega)
  cases be with
  | true =>
    refine ⟨_, _, rfl, ?_⟩
    simp only [unit16, if_true, hlow, hhigh]
    omega
  | false =>
    refine ⟨_, _, rfl, ?_⟩
    simp only [unit16, Bool.false_eq_true, if_false, hlow, hhigh]
    omega

theorem splitUnits16_flatMap_bytes16 (be : Bool) {us : List Nat} (h : ∀ u ∈ us, u < 0x10000) :
    splitUnits16 be (us.flatMap (bytes16 be)) = .ok us := by
  induction us with
  | nil => rfl
  | cons u us ih =>
    obtain ⟨hu, hus⟩ := List.forall_mem_cons.mp h
    obtain ⟨a, b, hbytes, hunit⟩ := exists_bytes16 be hu
    rw [List.flatMap_cons, hbytes, List.cons_append, List.cons_append, List.nil_append,
      splitUnits16, ih hus, hunit]

/-! ## Units of four bytes -/

/-- A unit is read back from its four bytes. -/
theorem exists_bytes32 (be : Bool) {n : Nat} (h : n < 0x100000000) :
    ∃ a b c d, bytes32 be n = [a, b, c, d] ∧ unit32 be a b c d = n := by
  obtain ⟨a, b, hfirst, hhigh⟩ := exists_bytes16 be (n := n / 0x10000) (by omega)
  obtain ⟨c, d, hsecond, hlow⟩ := exists_bytes16 be (n := n % 0x10000) (by omega)
  cases be with
  | true =>
    refine ⟨a, b, c, d, by simp [bytes32, hfirst, hsecond], ?_⟩
    simp only [unit32, if_true, hhigh, hlow]
    omega
  | false =>
    refine ⟨c, d, a, b, by simp [bytes32, hfirst, hsecond], ?_⟩
    simp only [unit32, Bool.false_eq_true, if_false, hhigh, hlow]
    omega

theorem chars32_flatMap_bytes32 (be : Bool) (cs : List Char) :
    chars32 be (cs.flatMap fun c => bytes32 be c.toNat) = .ok cs := by
  induction cs with
  | nil => rfl
  | cons c cs ih =>
    have hscalar := toNat_lt_or_lt c
    obtain ⟨x, y, z, w, hbytes, hunit⟩ := exists_bytes32 be (n := c.toNat) (by omega)
    rw [List.flatMap_cons, hbytes]
    simp only [List.cons_append, List.nil_append, chars32, hunit, ih, charOfUnit_toNat]
    rw [if_neg (by omega)]

end Encoding

/-! ## Bytes of variable width -/

namespace Utf8

theorem toNat_byte {n : Nat} (h : n < 0x100) : (byte n).toNat = n := Encoding.toNat_ofNat h

/-- A byte within its bounds adds six bits. -/
theorem followers_byte {value width low high d : Nat} {bounds : List (Nat × Nat)}
    {rest : List UInt8} (hd : d < 0x40) (hbounds : low ≤ 0x80 + d ∧ 0x80 + d ≤ high) :
    followers value width ((low, high) :: bounds) (byte (0x80 + d) :: rest) =
      followers (value * 0x40 + d) (width + 1) bounds rest := by
  have hbyte : (byte (0x80 + d)).toNat = 0x80 + d := toNat_byte (by omega)
  rw [followers, hbyte, if_pos hbounds, Nat.add_sub_cancel_left]

/-- The lead byte of three bounds the second byte, and the second byte of a character that needs
three and is no surrogate is within the bounds. -/
theorem exists_bounds_of_three {n : Nat} (hlow : 0x800 ≤ n) (hhigh : n < 0x10000)
    (hscalar : n < 0xD800 ∨ 0xDFFF < n) :
    ∃ low high, followerBounds (0xE0 + n / 0x1000) = some [(low, high), (0x80, 0xBF)] ∧
      low ≤ 0x80 + n / 0x40 % 0x40 ∧ 0x80 + n / 0x40 % 0x40 ≤ high := by
  unfold followerBounds
  rw [if_neg (by omega), if_neg (by omega), if_neg (by omega)]
  by_cases hfirst : 0xE0 + n / 0x1000 = 0xE0
  · exact ⟨0xA0, 0xBF, if_pos hfirst, by omega, by omega⟩
  rw [if_neg hfirst]
  by_cases hlast : 0xE0 + n / 0x1000 = 0xED
  · exact ⟨0x80, 0x9F, if_pos hlast, by omega, by omega⟩
  rw [if_neg hlast]
  exact ⟨0x80, 0xBF, if_pos (by omega), by omega, by omega⟩

/-- So is the second byte of a character that needs four. -/
theorem exists_bounds_of_four {n : Nat} (hlow : 0x10000 ≤ n) (hhigh : n < 0x110000) :
    ∃ low high, followerBounds (0xF0 + n / 0x40000) =
        some [(low, high), (0x80, 0xBF), (0x80, 0xBF)] ∧
      low ≤ 0x80 + n / 0x1000 % 0x40 ∧ 0x80 + n / 0x1000 % 0x40 ≤ high := by
  unfold followerBounds
  rw [if_neg (by omega), if_neg (by omega), if_neg (by omega), if_neg (by omega),
    if_neg (by omega), if_neg (by omega)]
  by_cases hfirst : 0xF0 + n / 0x40000 = 0xF0
  · exact ⟨0x90, 0xBF, if_pos hfirst, by omega, by omega⟩
  rw [if_neg hfirst]
  by_cases hlast : 0xF0 + n / 0x40000 = 0xF4
  · rw [if_neg (by omega)]
    exact ⟨0x80, 0x8F, if_pos hlast, by omega, by omega⟩
  exact ⟨0x80, 0xBF, if_pos (by omega), by omega, by omega⟩

/-- The lead byte of a character announces the bytes that follow it, and with them the character is
read. -/
theorem exists_lead (c : Char) :
    ∃ lead tail bounds, encodeChar c = lead :: tail ∧ followerBounds lead.toNat = some bounds ∧
      ∀ rest, followers (leadBits lead.toNat) 1 bounds (tail ++ rest) = .ok (c.toNat, rest) := by
  have hscalar := toNat_lt_or_lt c
  unfold encodeChar
  generalize c.toNat = n at hscalar
  dsimp only
  by_cases h₁ : n < 0x80
  · refine ⟨byte n, [], [], if_pos h₁, ?_, fun rest => ?_⟩
    · rw [toNat_byte (by omega), followerBounds, if_pos h₁]
    · rw [toNat_byte (by omega), leadBits, if_pos h₁]
      rfl
  rw [if_neg h₁]
  by_cases h₂ : n < 0x800
  · refine ⟨byte (0xC0 + n / 0x40), [byte (0x80 + n % 0x40)], [(0x80, 0xBF)], if_pos h₂, ?_,
      fun rest => ?_⟩
    · rw [toNat_byte (by omega), followerBounds, if_neg (by omega), if_neg (by omega),
        if_pos (by omega)]
    · have hvalue : (0xC0 + n / 0x40 - 0xC0) * 0x40 + n % 0x40 = n := by omega
      rw [toNat_byte (by omega), leadBits, if_neg (by omega), if_pos (by omega), List.cons_append,
        followers_byte (by omega) (by omega), hvalue]
      rfl
  rw [if_neg h₂]
  by_cases h₃ : n < 0x10000
  · obtain ⟨low, high, hbounds, hwithin⟩ := exists_bounds_of_three (n := n) (by omega) h₃ (by omega)
    refine ⟨_, _, [(low, high), (0x80, 0xBF)], if_pos h₃, ?_, fun rest => ?_⟩
    · rw [toNat_byte (by omega), hbounds]
    · have hvalue : ((0xE0 + n / 0x1000 - 0xE0) * 0x40 + n / 0x40 % 0x40) * 0x40 +
          n % 0x40 = n := by omega
      rw [toNat_byte (by omega), leadBits, if_neg (by omega), if_neg (by omega), if_pos (by omega),
        List.cons_append, List.cons_append, followers_byte (by omega) hwithin,
        followers_byte (by omega) (by omega), hvalue]
      rfl
  rw [if_neg h₃]
  obtain ⟨low, high, hbounds, hwithin⟩ := exists_bounds_of_four (n := n) (by omega) (by omega)
  refine ⟨_, _, [(low, high), (0x80, 0xBF), (0x80, 0xBF)], rfl, ?_, fun rest => ?_⟩
  · rw [toNat_byte (by omega), hbounds]
  · have hvalue : (((0xF0 + n / 0x40000 - 0xF0) * 0x40 + n / 0x1000 % 0x40) * 0x40 +
        n / 0x40 % 0x40) * 0x40 + n % 0x40 = n := by omega
    rw [toNat_byte (by omega), leadBits, if_neg (by omega), if_neg (by omega), if_neg (by omega),
      List.cons_append, List.cons_append, List.cons_append, followers_byte (by omega) hwithin,
      followers_byte (by omega) (by omega), followers_byte (by omega) (by omega), hvalue]
    rfl

/-- A text is read back from its bytes. -/
theorem decodeFrom_encode (surrogates : Bool) (offset : Nat) (cs : List Char) :
    decodeFrom surrogates offset (encode cs) = .ok cs := by
  induction cs generalizing offset with
  | nil =>
    rw [encode, List.flatMap_nil, decodeFrom]
  | cons c cs ih =>
    obtain ⟨lead, tail, bounds, hencode, hbounds, hfollowers⟩ := exists_lead c
    have hcons : encode (c :: cs) = lead :: (tail ++ encode cs) := by
      rw [encode, List.flatMap_cons, hencode]
      rfl
    rw [hcons, decodeFrom, hbounds]
    dsimp only
    split
    next n rest hstep =>
      rw [hfollowers] at hstep
      cases hstep
      rw [ih, Char.ofNat_toNat]
    next width fault hstep =>
      rw [hfollowers] at hstep
      cases hstep

end Utf8

/-! ## Encodings -/

namespace Encoding

/-- What an encoding writes it reads back. -/
theorem chars_encode (e : Encoding) (cs : List Char) : e.chars (e.encode cs) = .ok cs := by
  cases e with
  | utf8 => simp only [encode, chars, Utf8.decodeFrom_encode]
  | utf16 be =>
    have hunits : ∀ u ∈ cs.flatMap units16, u < 0x10000 := fun u hu => by
      obtain ⟨c, -, hc⟩ := List.mem_flatMap.mp hu
      exact lt_of_mem_units16 hc
    simp only [encode, chars, ← List.flatMap_assoc]
    rw [splitUnits16_flatMap_bytes16 be hunits]
    dsimp only
    rw [charsOfUnits_flatMap_units16]
  | utf32 be => simp only [encode, chars, chars32_flatMap_bytes32]

theorem decodeFrom_encode (base : Nat) (e : Encoding) (cs : List Char) :
    decodeFrom base e (e.encode cs) = .ok cs := by
  rw [decodeFrom, chars_encode]

theorem mark_eq (e : Encoding) :
    e.mark = match e with
      | utf8 => [0xEF, 0xBB, 0xBF]
      | utf16 true => [0xFE, 0xFF]
      | utf16 false => [0xFF, 0xFE]
      | utf32 true => [0, 0, 0xFE, 0xFF]
      | utf32 false => [0xFF, 0xFE, 0, 0] := by
  cases e with
  | utf8 => decide
  | utf16 be => cases be <;> decide
  | utf32 be => cases be <;> decide

/-! ## Detection -/

/-- A byte that stands for a character of ASCII other than null. -/
structure IsLetterByte (x : UInt8) : Prop where
  ne_zero : x ≠ 0
  lt : x.toNat < 0x80

/-- The first bytes of a text that begins with two characters of ASCII. -/
def front (x y : UInt8) : Encoding → List UInt8
  | utf8 => [x, y]
  | utf16 true => [0, x, 0, y]
  | utf16 false => [x, 0, y, 0]
  | utf32 true => [0, 0, 0, x]
  | utf32 false => [x, 0, 0, 0]

section Detection

variable {x y : UInt8} {e : Encoding} {rest : List UInt8}

/-- No mark begins with such a byte. -/
theorem IsLetterByte.ne_of_le (h : IsLetterByte x) {m : UInt8} (hm : 0x80 ≤ m.toNat) : m ≠ x := by
  rintro rfl
  exact absurd hm (Nat.not_le.mpr h.lt)

/-- The nulls in front give the encoding away. -/
theorem detect_front (hx : IsLetterByte x) (hy : IsLetterByte y) :
    detect (e.front x y ++ rest) = (e, 0) := by
  have hzero := hx.ne_zero.symm
  have hEF : 0xEF ≠ x := hx.ne_of_le (by decide)
  have hFE : 0xFE ≠ x := hx.ne_of_le (by decide)
  have hFF : 0xFF ≠ x := hx.ne_of_le (by decide)
  cases e with
  | utf8 =>
    -- how much more there is decides which of the first bytes are looked at
    rcases rest with _ | ⟨z, _ | ⟨w, rest⟩⟩ <;>
      simp [front, detect, beginsWith, detectByZeros, mark_eq, hzero, hEF, hFE, hFF, hx.ne_zero,
        hy.ne_zero]
  | utf16 be =>
    cases be <;> simp [front, detect, beginsWith, detectByZeros, mark_eq, hzero, hEF, hFE, hFF,
      hx.ne_zero, hy.ne_zero]
  | utf32 be =>
    cases be <;> simp [front, detect, beginsWith, detectByZeros, mark_eq, hzero, hEF, hFE, hFF,
      hx.ne_zero]

/-- A mark names the encoding. -/
theorem detect_mark_append_front (hx : IsLetterByte x) :
    detect (e.mark ++ (e.front x y ++ rest)) = (e, e.mark.length) := by
  have hzero := hx.ne_zero.symm
  cases e with
  | utf8 => simp [front, detect, beginsWith, mark_eq]
  | utf16 be => cases be <;> simp [front, detect, beginsWith, mark_eq, hzero]
  | utf32 be => cases be <;> simp [front, detect, beginsWith, mark_eq]

end Detection

end Encoding

/-- A text begins with two characters of ASCII that are not null. -/
inductive BeginsAscii : List Char → Prop
  | intro {c d : Char} (rest : List Char) (hc : 0 < c.toNat ∧ c.toNat < 0x80)
    (hd : 0 < d.toNat ∧ d.toNat < 0x80) : BeginsAscii (c :: d :: rest)

namespace Encoding

variable {cs : List Char}

theorem isLetterByte_ofNat {n : Nat} (h : 0 < n ∧ n < 0x80) : IsLetterByte (UInt8.ofNat n) := by
  have hvalue : (UInt8.ofNat n).toNat = n := toNat_ofNat (by omega)
  refine ⟨fun hzero => ?_, by omega⟩
  rw [hzero] at hvalue
  exact absurd hvalue (Nat.ne_of_lt h.1)

/-- Encoded, such a text begins with the bytes of its two characters among nulls. -/
theorem exists_encode_eq_front (e : Encoding) (h : BeginsAscii cs) :
    ∃ x y rest, IsLetterByte x ∧ IsLetterByte y ∧ e.encode cs = e.front x y ++ rest := by
  obtain @⟨c, d, rest, hc, hd⟩ := h
  refine ⟨UInt8.ofNat c.toNat, UInt8.ofNat d.toNat, ?_⟩
  have hhigh : ∀ {n : Nat}, n < 0x80 → n / 0x100 = 0 := by omega
  have hlow : ∀ {n : Nat}, n < 0x80 → n % 0x100 = n := by omega
  cases e with
  | utf8 =>
    refine ⟨Utf8.encode rest, isLetterByte_ofNat hc, isLetterByte_ofNat hd, ?_⟩
    simp [encode, Utf8.encode, Utf8.encodeChar, Utf8.byte, front, hc.2, hd.2]
  | utf16 be =>
    have hunits : ∀ {c : Char}, c.toNat < 0x80 → units16 c = [c.toNat] := fun h =>
      if_pos (by omega)
    refine ⟨(utf16 be).encode rest, isLetterByte_ofNat hc, isLetterByte_ofNat hd, ?_⟩
    cases be <;> simp [encode, hunits hc.2, hunits hd.2, bytes16, front, hhigh hc.2, hhigh hd.2,
      hlow hc.2, hlow hd.2]
  | utf32 be =>
    have hsmall : c.toNat / 0x10000 = 0 ∧ c.toNat % 0x10000 = c.toNat := by omega
    refine ⟨bytes32 be d.toNat ++ (utf32 be).encode rest, isLetterByte_ofNat hc,
      isLetterByte_ofNat hd, ?_⟩
    cases be <;> simp [encode, bytes32, bytes16, front, hhigh hc.2, hlow hc.2, hsmall]

/-- Without a mark the encoding is found out from the nulls. -/
theorem detect_encode (e : Encoding) (h : BeginsAscii cs) : detect (e.encode cs) = (e, 0) := by
  obtain ⟨x, y, rest, hx, hy, hencode⟩ := e.exists_encode_eq_front h
  rw [hencode, detect_front hx hy]

/-- With a mark it is the one that the mark names. -/
theorem detect_mark_append (e : Encoding) (h : BeginsAscii cs) :
    detect (e.mark ++ e.encode cs) = (e, e.mark.length) := by
  obtain ⟨x, y, rest, hx, -, hencode⟩ := e.exists_encode_eq_front h
  rw [hencode, detect_mark_append_front hx]

end Encoding

variable {cs : List Char}

/-- A text that begins in ASCII is read back from its bytes in any encoding. -/
theorem decodeDetected_encode (e : Encoding) (h : BeginsAscii cs) :
    decodeDetected (e.encode cs) = .ok cs := by
  rw [decodeDetected, e.detect_encode h]
  exact e.decodeFrom_encode _ cs

/-- The mark of the encoding in front makes no difference. -/
theorem decodeDetected_mark_append (e : Encoding) (h : BeginsAscii cs) :
    decodeDetected (e.mark ++ e.encode cs) = .ok cs := by
  rw [decodeDetected, e.detect_mark_append h]
  dsimp only
  rw [List.drop_left]
  exact e.decodeFrom_encode _ cs

end JobChain.Text
