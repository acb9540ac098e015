import JobChain.Binary64.Rounding

/-!
# Shortest decimal text

The text of a floating-point number has the fewest digits that read back as that number, and among
those the digits nearest to it.  The search is exact: the numbers that round to `x` fill an interval
around `x`, and at each count of digits only the two decimal numbers next to `x` can lie in it.

* `shortestDigits`: the digits and the place of the decimal point.
* `text`: those digits, positional where the point stands from four places before them to sixteen
  after the first, with an exponent elsewhere.
-/

namespace JobChain.Binary64

/-- The quotient `num / den` multiplied by `10 ^ -k`, as a quotient. -/
def shiftDecimal (num den : Nat) (k : Int) : Nat × Nat :=
  if 0 ≤ k then (num, den * Nat.pow 10 k.toNat) else (num * Nat.pow 10 (-k).toNat, den)

/-- The place of the decimal point of a positive quotient: the least `p` with
`num / den < 10 ^ p`, among those that occur. -/
def pointPlace (num den : Nat) : Int :=
  let candidates := (List.range 640).map fun i => Int.ofNat i - 325
  let below (p : Int) : Bool :=
    let (n, d) := shiftDecimal num den p
    decide (n < d)
  (candidates.find? below).getD 0

/-- Whether `d / 1`, scaled by `10 ^ k`, rounds to a number of significand `m` and exponent `e`: it
lies between the midpoints to the neighbours of `m · 2 ^ e`, themselves included if `m` is even. -/
def roundsTo (m e : Nat) (d : Nat) (k : Int) : Bool :=
  let lowest := m == Nat.pow 2 52 && decide (0 < e)
  -- everything is counted in quarters of the unit `2 ^ (e - 1074)`
  let unit := Nat.pow 2 1074 * 4
  let (num, den) :=
    if 0 ≤ k then (d * Nat.pow 10 k.toNat * unit, Nat.pow 2 e)
    else (d * unit, Nat.pow 2 e * Nat.pow 10 (-k).toNat)
  let high := (4 * m + 2) * den
  let low := (if lowest then 4 * m - 1 else 4 * m - 2) * den
  if m % 2 == 0 then decide (low ≤ num) && decide (num ≤ high)
  else decide (low < num) && decide (num < high)

/-- The decimal number of `count` digits nearest to `m · 2 ^ (e - 1074)` that rounds to it, if any,
where `place` is the place of the point of that number. -/
def digitsOfCount (m e : Nat) (place : Int) (count : Nat) : Option (Nat × Int) :=
  let k := place - count
  let (num, den) := shiftDecimal (m * Nat.pow 2 e) (Nat.pow 2 1074) k
  let below := num / den
  let twice := 2 * (num % den)
  let nearFirst :=
    if twice < den ∨ (twice = den ∧ below % 2 = 0) then [below, below + 1] else [below + 1, below]
  (nearFirst.find? fun d => roundsTo m e d k).map fun d => (d, k)

/-- The shortest digits of a positive finite number and the power of ten that they count. -/
def shortestDigits (x : Binary64) : Nat × Int :=
  let m := x.significand
  let e := x.exponent
  let place := pointPlace (m * Nat.pow 2 e) (Nat.pow 2 1074)
  ((List.range 17).findSome? fun i => digitsOfCount m e place (i + 1)).getD (0, 0)

/-- The digits of a number without the zeros at their end, and the power of ten that they count. -/
def withoutTrailingZeros : List Char → Int → List Char × Int
  | ds, k =>
    let kept := (ds.reverse.dropWhile (· == '0')).reverse
    (kept, k + Int.ofNat (ds.length - kept.length))

/-- An exponent: its sign and at least two digits. -/
def exponentForm (exponent : Int) : List Char :=
  let digits := Nat.toDigits 10 exponent.natAbs
  'e' :: (if exponent < 0 then '-' else '+') :: (List.replicate (2 - digits.length) '0' ++ digits)

/-- The text of the digits `ds`, counted in units of `10 ^ k`. -/
def decimalText (ds : List Char) (k : Int) : List Char :=
  let place := k + ds.length
  if -4 < place ∧ place ≤ 16 then
    if place ≤ 0 then '0' :: '.' :: (List.replicate (-place).toNat '0' ++ ds)
    else
      let whole := ds.take place.toNat
      let rest := ds.drop place.toNat
      whole ++ List.replicate (place.toNat - whole.length) '0' ++ ['.'] ++
        (if rest.isEmpty then ['0'] else rest)
  else
    ds.take 1 ++ (if ds.length ≤ 1 then [] else '.' :: ds.drop 1) ++ exponentForm (place - 1)

/-- The text of a number. -/
def text (x : Binary64) : String :=
  if x.isNaN then "nan"
  else
    let body :=
      if x.isInfinite then "inf".toList
      else if x.isZero then "0.0".toList
      else
        let (d, k) := x.shortestDigits
        let (ds, k) := withoutTrailingZeros (toString d).toList k
        decimalText ds k
    String.ofList (if x.isNegative then '-' :: body else body)

end JobChain.Binary64
