/-!
# Binary floating-point numbers

A number of double precision is its 64 bits, and two numbers are equal when their bits are.  Zero
has two forms, one for each sign, and the only not-a-number that this library makes is `nan`.
Powers are those of natural numbers, written `Nat.pow`, whatever other powers are in scope.

* `ofParts`: the finite number `± m · 2 ^ (e - 1074)` from its significand and its exponent, with
  every carry and overflow absorbed by one addition.
* `significand`, `exponent`: the converse, `m` and `e` of a finite number.
* `isNonPositive`: comparison with zero.  Nothing compares with a not-a-number.
* `integer?`: the integer that a number is, if it is one.
-/

namespace JobChain

/-- A floating-point number of double precision, by its bits. -/
structure Binary64 where
  bits : UInt64
deriving DecidableEq, Repr

namespace Binary64

/-- The bits of positive infinity, as a number. -/
def infinityBits : Nat := 0x7FF0000000000000

/-- The weight of the sign bit. -/
def signWeight : Nat := 0x8000000000000000

/-- The number with the given sign whose other bits are `magnitude`. -/
def ofMagnitude (negative : Bool) (magnitude : Nat) : Binary64 :=
  ⟨UInt64.ofNat (magnitude + if negative then signWeight else 0)⟩

/-- Zero. -/
def zero : Binary64 := ofMagnitude false 0

/-- One. -/
def one : Binary64 := ofMagnitude false 0x3FF0000000000000

/-- Infinity of the given sign. -/
def infinity (negative : Bool) : Binary64 := ofMagnitude negative infinityBits

/-- Not a number. -/
def nan : Binary64 := ⟨0x7FF8000000000000⟩

instance : Inhabited Binary64 := ⟨zero⟩

/-- The finite number of the given sign with significand `m`, below or at `2 ^ 53`, and exponent
`e`, counted from that of the least positive number.  A significand below `2 ^ 52` belongs to the
exponent zero alone.  A result past the last finite number is infinite. -/
def ofParts (negative : Bool) (m e : Nat) : Binary64 :=
  ofMagnitude negative (min (e * Nat.pow 2 52 + m) infinityBits)

/-- Whether the sign bit is set. -/
def isNegative (x : Binary64) : Bool := decide (signWeight ≤ x.bits.toNat)

/-- All bits but the sign. -/
def magnitude (x : Binary64) : Nat := x.bits.toNat % signWeight

/-- Whether the number is not a number. -/
def isNaN (x : Binary64) : Bool := decide (infinityBits < x.magnitude)

/-- Whether the number is infinite. -/
def isInfinite (x : Binary64) : Bool := x.magnitude == infinityBits

/-- Whether the number is finite. -/
def isFinite (x : Binary64) : Bool := decide (x.magnitude < infinityBits)

/-- Whether the number is zero, of either sign. -/
def isZero (x : Binary64) : Bool := x.magnitude == 0

/-- Whether the number is at most zero. -/
def isNonPositive (x : Binary64) : Bool := !x.isNaN && (x.isZero || x.isNegative)

/-- The exponent of a finite number, counted from that of the least positive number. -/
def exponent (x : Binary64) : Nat := x.magnitude / Nat.pow 2 52 - 1

/-- The significand of a finite number. -/
def significand (x : Binary64) : Nat := x.magnitude - x.exponent * Nat.pow 2 52

/-- The integer that a finite number is, if it is one. -/
def integer? (x : Binary64) : Option Int :=
  let n := x.significand * Nat.pow 2 x.exponent
  if x.isFinite && n % Nat.pow 2 1074 == 0 then
    some (if x.isNegative then -Int.ofNat (n / Nat.pow 2 1074) else Int.ofNat (n / Nat.pow 2 1074))
  else none

end Binary64

end JobChain
