import JobChain.Text.Quoted
import JobChain.Text.Utf8

/-!
# Encodings of text

The encodings in which a payload may arrive: the one with bytes of variable width, and those with
units of two or four bytes in either byte order.  A byte-order mark at the front names the encoding;
without one, the zeros among the first four bytes do, because a payload begins with two characters
below `U+0080`.

* `Encoding.encode`: the bytes of a text in an encoding.
* `Encoding.detect`: the encoding that the first bytes point to, with the length of its mark.
* `decodeDetected`: the characters of a byte sequence in its own encoding.
* `decodeStrict`: those of a byte sequence in the encoding of variable width.
-/

namespace JobChain.Text

/-- An encoding of text. -/
inductive Encoding where
  | utf8
  | utf16 (bigEndian : Bool)
  | utf32 (bigEndian : Bool)
deriving DecidableEq, Repr

/-- Why bytes are not a text in their encoding. -/
inductive DecodeFault where
  | startByte
  | continuationByte
  | endOfData
  | truncated
  | outOfRange
deriving DecidableEq, Repr

/-- Bytes that are not a text in their encoding: `length` bytes from `offset` on, the first of them
`first`. -/
structure DecodeError where
  encoding : Encoding
  first : UInt8
  offset : Nat
  length : Nat
  fault : DecodeFault
deriving DecidableEq, Repr

namespace Encoding

/-- The name of an encoding in messages. -/
def name : Encoding → String
  | utf8 => "utf-8"
  | utf16 false => "utf-16-le"
  | utf16 true => "utf-16-be"
  | utf32 false => "utf-32-le"
  | utf32 true => "utf-32-be"

/-! ## Units -/

/-- The two bytes of a unit. -/
def bytes16 (bigEndian : Bool) (n : Nat) : List UInt8 :=
  let low := UInt8.ofNat (n % 0x100)
  let high := UInt8.ofNat (n / 0x100)
  if bigEndian then [high, low] else [low, high]

/-- The four bytes of a unit. -/
def bytes32 (bigEndian : Bool) (n : Nat) : List UInt8 :=
  if bigEndian then bytes16 true (n / 0x10000) ++ bytes16 true (n % 0x10000)
  else bytes16 false (n % 0x10000) ++ bytes16 false (n / 0x10000)

/-- The value of a unit of two bytes. -/
def unit16 (bigEndian : Bool) (a b : UInt8) : Nat :=
  if bigEndian then a.toNat * 0x100 + b.toNat else b.toNat * 0x100 + a.toNat

/-- The value of a unit of four bytes. -/
def unit32 (bigEndian : Bool) (a b c d : UInt8) : Nat :=
  if bigEndian then unit16 true a b * 0x10000 + unit16 true c d
  else unit16 false c d * 0x10000 + unit16 false a b

/-- The units of a character in two-byte units: itself, or a pair of surrogates. -/
def units16 (c : Char) : List Nat :=
  let n := c.toNat
  if n < 0x10000 then [n] else [0xD800 + (n - 0x10000) / 0x400, 0xDC00 + (n - 0x10000) % 0x400]

/-- Whether a unit is the first of a pair of surrogates. -/
def isHighSurrogate (n : Nat) : Bool := decide (0xD800 ≤ n) && decide (n ≤ 0xDBFF)

/-- Whether a unit is the second of a pair of surrogates. -/
def isLowSurrogate (n : Nat) : Bool := decide (0xDC00 ≤ n) && decide (n ≤ 0xDFFF)

/-- The character that a pair of surrogates stands for. -/
def joinSurrogates (high low : Nat) : Char :=
  Char.ofNat (0x10000 + (high - 0xD800) * 0x400 + (low - 0xDC00))

/-- The character that a lone unit stands for; a surrogate, which stands for none, is replaced. -/
def charOfUnit (n : Nat) : Char :=
  if isHighSurrogate n || isLowSurrogate n then Char.ofNat 0xFFFD else Char.ofNat n

/-- The characters of a sequence of two-byte units. -/
def charsOfUnits : List Nat → List Char
  | [] => []
  | [n] => [charOfUnit n]
  | n :: m :: rest =>
    if isHighSurrogate n && isLowSurrogate m then joinSurrogates n m :: charsOfUnits rest
    else charOfUnit n :: charsOfUnits (m :: rest)

/-! ## Whole texts -/

/-- The bytes of a text in an encoding, without a mark. -/
def encode : Encoding → List Char → List UInt8
  | utf8, cs => Utf8.encode cs
  | utf16 be, cs => cs.flatMap fun c => (units16 c).flatMap (bytes16 be)
  | utf32 be, cs => cs.flatMap fun c => bytes32 be c.toNat

/-- The byte-order mark of an encoding. -/
def mark (e : Encoding) : List UInt8 := e.encode [Char.ofNat 0xFEFF]

/-- The two-byte units of a byte sequence, or its length if one byte is left over. -/
def splitUnits16 (bigEndian : Bool) : List UInt8 → Except Nat (List Nat)
  | [] => .ok []
  | [_] => .error 0
  | a :: b :: rest =>
    match splitUnits16 bigEndian rest with
    | .ok us => .ok (unit16 bigEndian a b :: us)
    | .error n => .error (n + 2)

/-- The characters of a sequence of four-byte units; the first fault is given with its offset and
length. -/
def chars32 (bigEndian : Bool) : List UInt8 → Except (Nat × Nat × DecodeFault) (List Char)
  | [] => .ok []
  | a :: b :: c :: d :: rest =>
    let n := unit32 bigEndian a b c d
    if 0x10FFFF < n then .error (0, 4, .outOfRange)
    else
      match chars32 bigEndian rest with
      | .ok cs => .ok (charOfUnit n :: cs)
      | .error (offset, length, fault) => .error (offset + 4, length, fault)
  | rest => .error (0, rest.length, .truncated)

/-- The fault of bytes of variable width, among the faults of all encodings. -/
def faultOfUtf8 : Utf8.Fault → DecodeFault
  | .startByte => .startByte
  | .continuationByte => .continuationByte
  | .endOfData => .endOfData

/-- The characters of bytes in a known encoding, or the offset and length of the bytes at fault. -/
def chars : Encoding → List UInt8 → Except (Nat × Nat × DecodeFault) (List Char)
  | utf8, bs =>
    match Utf8.decodeFrom true 0 bs with
    | .ok cs => .ok cs
    | .error e => .error (e.offset, e.length, faultOfUtf8 e.fault)
  | utf16 be, bs =>
    match splitUnits16 be bs with
    | .ok us => .ok (charsOfUnits us)
    | .error offset => .error (offset, 1, .truncated)
  | utf32 be, bs => chars32 be bs

/-- The characters of bytes in a known encoding.  Faults are located from the offset `base` on. -/
def decodeFrom (base : Nat) (e : Encoding) (bs : List UInt8) : Except DecodeError (List Char) :=
  match e.chars bs with
  | .ok cs => .ok cs
  | .error (offset, length, fault) => .error ⟨e, bs.getD offset 0, base + offset, length, fault⟩

/-! ## Detection -/

/-- Whether `front` begins `bs`. -/
def beginsWith (front bs : List UInt8) : Bool := front.isPrefixOf bs

/-- The encoding that the zeros among the first bytes point to. -/
def detectByZeros : List UInt8 → Encoding
  | a :: b :: c :: d :: _ =>
    if a = 0 then (if b = 0 then utf32 true else utf16 true)
    else if b = 0 then (if c = 0 ∧ d = 0 then utf32 false else utf16 false)
    else utf8
  | [a, b] => if a = 0 then utf16 true else if b = 0 then utf16 false else utf8
  | _ => utf8

/-- The encoding of a byte sequence, with the length of its mark. -/
def detect (bs : List UInt8) : Encoding × Nat :=
  if beginsWith (mark (utf32 true)) bs then (utf32 true, 4)
  else if beginsWith (mark (utf32 false)) bs then (utf32 false, 4)
  else if beginsWith (mark (utf16 true)) bs then (utf16 true, 2)
  else if beginsWith (mark (utf16 false)) bs then (utf16 false, 2)
  else if beginsWith (mark utf8) bs then (utf8, 3)
  else (detectByZeros bs, 0)

/-- The offset at which the faults of an encoding are counted, after a mark of the given length: the
mark of the variable-width encoding is not counted. -/
def baseOffset : Encoding → Nat → Nat
  | utf8, _ => 0
  | _, mark => mark

end Encoding

/-- The characters of a byte sequence in the encoding that its first bytes point to. -/
def decodeDetected (bs : List UInt8) : Except DecodeError (List Char) :=
  let (encoding, mark) := Encoding.detect bs
  encoding.decodeFrom (encoding.baseOffset mark) (bs.drop mark)

/-- The characters of a byte sequence in the encoding of variable width, without a mark and without
surrogates. -/
def decodeStrict (bs : List UInt8) : Except DecodeError (List Char) :=
  match Utf8.decode bs with
  | .ok cs => .ok cs
  | .error e =>
    .error ⟨.utf8, bs.getD e.offset 0, e.offset, e.length, Encoding.faultOfUtf8 e.fault⟩

/-! ## Messages -/

/-- What is wrong with the bytes. -/
def DecodeFault.message : DecodeFault → String
  | .startByte => "invalid start byte"
  | .continuationByte => "invalid continuation byte"
  | .endOfData => "unexpected end of data"
  | .truncated => "truncated data"
  | .outOfRange => "code point not in range(0x110000)"

/-- The bytes at fault as messages name them. -/
def DecodeError.location (e : DecodeError) : String :=
  if e.length = 1 then
    "byte 0x" ++ String.ofList (hexDigits 2 e.first.toNat) ++ " in position " ++ toString e.offset
  else "bytes in position " ++ toString e.offset ++ "-" ++ toString (e.offset + e.length - 1)

/-- The message of a decoding error. -/
def DecodeError.message (e : DecodeError) : String :=
  "'" ++ e.encoding.name ++ "' codec can't decode " ++ e.location ++ ": " ++ e.fault.message

end JobChain.Text
