import JobChain.Binary64.Basic

/-!
# Rounding to double precision

Quotients of natural numbers, decimal numbers and integers are rounded to the nearest floating-point
number; of two that are equally near, the one with an even significand is taken.  All arithmetic is
exact.

* `roundQuotient`: a quotient rounded to an integer, half to even.
* `ofQuotient`: a quotient rounded to double precision.
* `ofDecimal`: the number `digits · 10 ^ exponent`, with exponents of any size.
* `ofInt?`: an integer, unless it is too large to be finite.
-/

namespace JobChain.Binary64

/-- The integer nearest to `num / den`; of two, the even one. -/
def roundQuotient (num den : Nat) : Nat :=
  let q := num / den
  let r := num % den
  if 2 * r < den then q
  else if den < 2 * r then q + 1
  else q + q % 2

/-- The quotient `num / den`, scaled up by `2 ^ 1074` and down by `2 ^ e`, rounded. -/
def scaled (num den e : Nat) : Nat := roundQuotient (num * Nat.pow 2 1074) (den * Nat.pow 2 e)

/-- The least exponent, counted from that of the least positive number, at which the quotient
`num / den` has a significand below `2 ^ 53`. -/
def quotientExponent (num den : Nat) : Nat :=
  let e := num.log2 + 1074 - den.log2 - 53
  if num * Nat.pow 2 1074 / (den * Nat.pow 2 e) < Nat.pow 2 53 then e else e + 1

/-- The number of the given sign nearest to `num / den`. -/
def ofQuotient (negative : Bool) (num den : Nat) : Binary64 :=
  if num = 0 then ofParts negative 0 0
  else
    let e := quotientExponent num den
    ofParts negative (scaled num den e) e

/-- The number of the given sign nearest to `digits · 10 ^ exponent`.  Exponents past those of all
finite numbers are decided without computing the power. -/
def ofDecimal (negative : Bool) (digits : Nat) (exponent : Int) : Binary64 :=
  if digits = 0 then ofParts negative 0 0
  else if 400 < exponent then infinity negative
  else if exponent + digits.log2 + 1 < -400 then ofParts negative 0 0
  else if 0 ≤ exponent then ofQuotient negative (digits * Nat.pow 10 exponent.toNat) 1
  else ofQuotient negative digits (Nat.pow 10 (-exponent).toNat)

/-- The number nearest to an integer, unless that is infinite. -/
def ofInt? (n : Int) : Option Binary64 :=
  let x := ofQuotient (decide (n < 0)) n.natAbs 1
  if x.isFinite then some x else none

end JobChain.Binary64
