import JobChain.Binary64.Rounding
import JobChain.Binary64.Shortest

/-!
# Decimals of a given count

A finite number can be written with a given count of decimals, or with a given count of digits in
all.  The digits are those of the nearest such decimal number, and of two that are equally near
those that end in an even digit.  All forms are written without a sign.

* `fixedForm`: a count of decimals, and no exponent.
* `scientificForm`: one digit, a count of decimals, and an exponent.
* `generalForm`: a count of digits, with an exponent where the number is very small or has more
  digits than that before the point.
-/

namespace JobChain.Binary64

/-- The count of decimals that suffices for the exact value of every finite number. -/
def mostDecimals : Nat := 1074

/-- The count of digits that suffices for the exact value of every finite number. -/
def mostDigits : Nat := 800

/-- A finite number without its sign, as a quotient. -/
def quotient (x : Binary64) : Nat × Nat := (x.significand * Nat.pow 2 x.exponent, Nat.pow 2 1074)

/-- The first digits of a positive quotient, rounded, and the place of the point among them. -/
def leadingDigits (num den count : Nat) : List Char × Int :=
  let place := pointPlace num den
  let (n, d) := shiftDecimal num den (place - count)
  let rounded := roundQuotient n d
  if rounded < Nat.pow 10 count then (Nat.toDigits 10 rounded, place)
  else (Nat.toDigits 10 (rounded / 10), place + 1)

/-- The first digits of a finite number and the place of the point among them.  Digits past the
exact value are left out, and zero has one digit. -/
def significantDigits (x : Binary64) (count : Nat) : List Char × Int :=
  if x.isZero then (['0'], 1) else leadingDigits x.quotient.1 x.quotient.2 (min count mostDigits)

/-- Digits and zeros after them, up to a count. -/
def filled (ds : List Char) (count : Nat) : List Char :=
  ds ++ List.replicate (count - ds.length) '0'

/-- The decimals after their point.  Without decimals there is a point only if it is asked for. -/
def pointed (ds : List Char) (point : Bool) : List Char :=
  if ds.isEmpty && !point then [] else '.' :: ds

/-- A finite number with a count of decimals. -/
def fixedForm (x : Binary64) (decimals : Nat) (point : Bool) : List Char :=
  let exact := min decimals mostDecimals
  let digits := Nat.toDigits 10 (roundQuotient (x.quotient.1 * Nat.pow 10 exact) x.quotient.2)
  let digits := List.replicate (exact + 1 - digits.length) '0' ++ digits
  let whole := digits.take (digits.length - exact)
  whole ++ pointed (filled (digits.drop whole.length) decimals) point

/-- A finite number with one digit before the point, a count of decimals and an exponent. -/
def scientificForm (x : Binary64) (decimals : Nat) (point : Bool) : List Char :=
  let (ds, place) := x.significantDigits (decimals + 1)
  ds.take 1 ++ pointed (filled (ds.drop 1) decimals) point ++ exponentForm (place - 1)

/-- A finite number with a count of digits.  Zeros at the end are left out unless the point is asked
for. -/
def generalForm (x : Binary64) (count : Nat) (point : Bool) : List Char :=
  let (ds, place) := x.significantDigits count
  let ds := if point then filled ds count else (ds.reverse.dropWhile (· == '0')).reverse
  if place ≤ -4 ∨ Int.ofNat count < place then
    ds.take 1 ++ pointed (ds.drop 1) point ++ exponentForm (place - 1)
  else if place ≤ 0 then '0' :: '.' :: (List.replicate (-place).toNat '0' ++ ds)
  else filled (ds.take place.toNat) place.toNat ++ pointed (ds.drop place.toNat) point

end JobChain.Binary64
