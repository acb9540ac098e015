/-!
# Text in bytes of variable width

The encoding that writes a character in one to four bytes.  A lead byte announces how many bytes
follow it and within which bounds; decoding checks each of them and stops at the first character
that cannot be completed.

* `followerBounds`: the bounds of the bytes after each lead byte, which exclude over-long forms,
  surrogates and code points past the last one.
* `encodeChar`, `encode`: the bytes of a character and of a text.
* `decode`: the characters of a byte sequence, or where and why there are none.
-/

namespace JobChain.Text.Utf8

/-- Why bytes cannot be read as a character. -/
inductive Fault where
  | startByte
  | continuationByte
  | endOfData
deriving DecidableEq, Repr

/-- The bytes at fault: `length` of them from the offset `offset` on. -/
structure Failure where
  offset : Nat
  length : Nat
  fault : Fault
deriving DecidableEq, Repr

/-! ## Writing -/

/-- The byte with the value `n`. -/
def byte (n : Nat) : UInt8 := UInt8.ofNat n

/-- The bytes of a character. -/
def encodeChar (c : Char) : List UInt8 :=
  let n := c.toNat
  if n < 0x80 then [byte n]
  else if n < 0x800 then [byte (0xC0 + n / 0x40), byte (0x80 + n % 0x40)]
  else if n < 0x10000 then
    [byte (0xE0 + n / 0x1000), byte (0x80 + n / 0x40 % 0x40), byte (0x80 + n % 0x40)]
  else
    [byte (0xF0 + n / 0x40000), byte (0x80 + n / 0x1000 % 0x40), byte (0x80 + n / 0x40 % 0x40),
      byte (0x80 + n % 0x40)]

/-- The bytes of a text. -/
def encode (cs : List Char) : List UInt8 := cs.flatMap encodeChar

/-! ## Reading -/

/-- The bounds of the bytes that follow a lead byte, or `none` for a byte that cannot lead. -/
def followerBounds (lead : Nat) : Option (List (Nat × Nat)) :=
  if lead < 0x80 then some []
  else if lead < 0xC2 then none
  else if lead < 0xE0 then some [(0x80, 0xBF)]
  else if lead = 0xE0 then some [(0xA0, 0xBF), (0x80, 0xBF)]
  else if lead = 0xED then some [(0x80, 0x9F), (0x80, 0xBF)]
  else if lead < 0xF0 then some [(0x80, 0xBF), (0x80, 0xBF)]
  else if lead = 0xF0 then some [(0x90, 0xBF), (0x80, 0xBF), (0x80, 0xBF)]
  else if lead < 0xF4 then some [(0x80, 0xBF), (0x80, 0xBF), (0x80, 0xBF)]
  else if lead = 0xF4 then some [(0x80, 0x8F), (0x80, 0xBF), (0x80, 0xBF)]
  else none

/-- The bits of a character that its lead byte carries. -/
def leadBits (lead : Nat) : Nat :=
  if lead < 0x80 then lead
  else if lead < 0xE0 then lead - 0xC0
  else if lead < 0xF0 then lead - 0xE0
  else lead - 0xF0

/-- Reads the bytes after a lead byte: the code point with what is left, or the fault with the
number of bytes that it covers.  `value` and `width` are the bits and the bytes read so far. -/
def followers (value width : Nat) :
    List (Nat × Nat) → List UInt8 → Except (Nat × Fault) (Nat × List UInt8)
  | [], rest => .ok (value, rest)
  | _ :: _, [] => .error (width, .endOfData)
  | bound :: bounds, b :: rest =>
    if bound.1 ≤ b.toNat ∧ b.toNat ≤ bound.2 then
      followers (value * 0x40 + (b.toNat - 0x80)) (width + 1) bounds rest
    else .error (width, .continuationByte)

theorem length_followers {value width : Nat} {bounds : List (Nat × Nat)} {bs : List UInt8}
    {v : Nat} {rest : List UInt8} (h : followers value width bounds bs = .ok (v, rest)) :
    rest.length + bounds.length = bs.length := by
  induction bounds generalizing value width bs with
  | nil =>
    simp only [followers, Except.ok.injEq, Prod.mk.injEq] at h
    simp [h.2]
  | cons b bounds ih =>
    cases bs with
    | nil => simp [followers] at h
    | cons x xs =>
      simp only [followers] at h
      split at h
      · have := ih h
        simp only [List.length_cons]
        omega
      · simp at h

/-- The code point of the surrogate that begins a byte sequence, if one does, with what is left. -/
def surrogate? : List UInt8 → Option (List UInt8)
  | a :: b :: c :: rest =>
    if a.toNat = 0xED ∧ 0xA0 ≤ b.toNat ∧ b.toNat ≤ 0xBF ∧ 0x80 ≤ c.toNat ∧ c.toNat ≤ 0xBF then
      some rest
    else none
  | _ => none

theorem length_surrogate? {bs rest : List UInt8} (h : surrogate? bs = some rest) :
    rest.length < bs.length := by
  unfold surrogate? at h
  split at h
  · split at h
    · simp only [Option.some.injEq] at h
      subst h
      simp only [List.length_cons]
      omega
    · simp at h
  · simp at h

/-- The characters of a byte sequence that begins at the offset `offset`.  With `surrogates`, a
surrogate, which is no character, is read as the replacement character instead of refused. -/
def decodeFrom (surrogates : Bool) (offset : Nat) (bs : List UInt8) :
    Except Failure (List Char) :=
  match bs with
  | [] => .ok []
  | b :: tail =>
    match followerBounds b.toNat with
    | none => .error ⟨offset, 1, .startByte⟩
    | some bounds =>
      match _step : followers (leadBits b.toNat) 1 bounds tail with
      | .ok (n, rest) =>
        match decodeFrom surrogates (offset + 1 + bounds.length) rest with
        | .ok cs => .ok (Char.ofNat n :: cs)
        | .error e => .error e
      | .error (width, fault) =>
        match _pass : if surrogates then surrogate? (b :: tail) else none with
        | some rest =>
          match decodeFrom surrogates (offset + 3) rest with
          | .ok cs => .ok (Char.ofNat 0xFFFD :: cs)
          | .error e => .error e
        | none => .error ⟨offset, width, fault⟩
termination_by bs.length
decreasing_by
  · have := length_followers _step
    simp only [List.length_cons]
    omega
  · split at _pass
    · exact length_surrogate? _pass
    · simp at _pass

/-- The characters of a byte sequence, surrogates refused. -/
def decode (bs : List UInt8) : Except Failure (List Char) := decodeFrom false 0 bs

end JobChain.Text.Utf8
