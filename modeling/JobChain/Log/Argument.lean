import JobChain.Binary64.Decimals
import JobChain.Json.Display
import JobChain.Log.Place

/-!
# Arguments of templates

An argument is written in a frame: the flags of its place, a least width, and a precision.  The
letter of the place says how.

* `%s` writes a value as in running text, `%r` as inside a list, and `%a` like that in ASCII alone;
  the precision is the most characters that are kept.
* `%c` writes one character, given as a text or by its code point.
* `%d`, `%i` and `%u` write a number in decimal digits, cut to an integer, and `%x`, `%X` and `%o`
  an integer in other bases; the precision is the least count of digits.
* `%f` writes a number with a count of decimals, `%e` with an exponent too, and `%g` with a count of
  digits; the precision is that count.  Capital letters write exponents and special values in
  capitals.

`Frame.write` is an argument in its frame, or why it cannot be written.
-/

namespace JobChain.Log

/-- Why a template has no text. -/
inductive TemplateError where
  | incomplete
  | unsupported (letter : Char) (index : Nat)
  | tooFew
  | tooMany
  | mappingWanted
  | extentWanted
  | widthTooBig
  | precisionTooBig
  | widthTooLarge
  | precisionTooLarge
  | tooManyDigits
  | tooLong
  | characterWanted
  | noCharacter
  | realWanted (letter : Char) (kindName : String)
  | integerWanted (letter : Char) (kindName : String)
  | numberWanted (kindName : String)
  | numberTooLarge
  | notANumber
  | infinite
deriving DecidableEq, Repr

/-- The reason in words. -/
def TemplateError.message : TemplateError → String
  | incomplete => "incomplete format"
  | unsupported letter index =>
    let shown := if 31 ≤ letter.toNat ∧ letter.toNat ≤ 126 then letter else '?'
    "unsupported format character '" ++ String.ofList [shown] ++ "' (0x" ++
      String.ofList (Nat.toDigits 16 letter.toNat) ++ ") at index " ++ toString index
  | tooFew => "not enough arguments for format string"
  | tooMany => "not all arguments converted during string formatting"
  | mappingWanted => "format requires a mapping"
  | extentWanted => "* wants int"
  | widthTooBig => "width too big"
  | precisionTooBig => "precision too big"
  | widthTooLarge => "Python int too large to convert to C ssize_t"
  | precisionTooLarge => "Python int too large to convert to C int"
  | tooManyDigits => "precision too large"
  | tooLong => ""
  | characterWanted => "%c requires int or char"
  | noCharacter => "%c arg not in range(0x110000)"
  | realWanted letter kindName =>
    "%" ++ String.ofList [letter] ++ " format: a real number is required, not " ++ kindName
  | integerWanted letter kindName =>
    "%" ++ String.ofList [letter] ++ " format: an integer is required, not " ++ kindName
  | numberWanted kindName => "must be real number, not " ++ kindName
  | numberTooLarge => "int too large to convert to float"
  | notANumber => "cannot convert float NaN to integer"
  | infinite => "cannot convert float infinity to integer"

/-- The largest width. -/
def largestWidth : Nat := Nat.pow 2 63 - 1

/-- The largest precision. -/
def largestPrecision : Nat := Nat.pow 2 31 - 1

/-- The largest width that there is room for. -/
def roomiestWidth : Nat := Nat.pow 2 32

/-- What surrounds an argument: the flags of its place, the least width and the precision. -/
structure Frame extends Flags where
  width : Nat
  precision : Option Nat
deriving DecidableEq, Repr

namespace Frame

/-! ## Layout -/

/-- A text in the width of a frame, if there is room for it. -/
def padded (f : Frame) (cs : List Char) : Except TemplateError (List Char) :=
  let room := List.replicate (f.width - cs.length) ' '
  if roomiestWidth < f.width then .error .tooLong
  else .ok (if f.left then cs ++ room else room ++ cs)

/-- A text argument: cut to the precision, in the width. -/
def text (f : Frame) (s : String) : Except TemplateError (List Char) :=
  match f.precision with
  | some n => f.padded (s.toList.take n)
  | none => f.padded s.toList

/-- A number argument: its sign, a mark of its base, its digits, and zeros that fill the width. -/
def number (f : Frame) (negative : Bool) (mark digits : List Char) :
    Except TemplateError (List Char) :=
  let sign := if negative then ['-'] else if f.plus then ['+'] else if f.blank then [' '] else []
  let front := sign ++ mark
  if roomiestWidth < f.width then .error .tooLong
  else
    let zeros := if f.zeros && !f.left then f.width - front.length - digits.length else 0
    f.padded (front ++ List.replicate zeros '0' ++ digits)

/-! ## Integers -/

/-- An integer argument in a base. -/
def integer (f : Frame) (base : Nat) (mark : List Char) (n : Int) :
    Except TemplateError (List Char) :=
  let count := f.precision.getD 0
  let digits := Nat.toDigits base n.natAbs
  if largestPrecision < count + 3 then .error .tooManyDigits
  else
    f.number (decide (n < 0)) (if f.alternate then mark else [])
      (List.replicate (count - digits.length) '0' ++ digits)

/-- The integer that an argument is cut to. -/
def wholeOf (letter : Char) : Json → Except TemplateError Int
  | .int n => .ok n
  | .bool b => .ok (if b then 1 else 0)
  | .float x =>
    if x.isNaN then .error .notANumber
    else if x.isInfinite then .error .infinite
    else
      let n := x.significand * Nat.pow 2 x.exponent / Nat.pow 2 1074
      .ok (if x.isNegative then -Int.ofNat n else Int.ofNat n)
  | value => .error (.realWanted letter value.kindName)

/-- The integer that an argument is. -/
def exactOf (letter : Char) : Json → Except TemplateError Int
  | .int n => .ok n
  | .bool b => .ok (if b then 1 else 0)
  | value => .error (.integerWanted letter value.kindName)

/-! ## Numbers with decimals -/

/-- The number that an argument is, rounded to double precision. -/
def realOf : Json → Except TemplateError Binary64
  | .float x => .ok x
  | .int n =>
    match Binary64.ofInt? n with
    | some x => .ok x
    | none => .error .numberTooLarge
  | .bool b => .ok (if b then Binary64.one else Binary64.zero)
  | value => .error (.numberWanted value.kindName)

/-- A finite number by the small form of its letter.  The largest precision counts as none where
there would be one digit more than that. -/
def finiteForm (f : Frame) (letter : Char) (x : Binary64) : List Char :=
  let count := f.precision.getD 6
  if letter = 'f' then x.fixedForm count f.alternate
  else if letter = 'e' then
    x.scientificForm (if count = largestPrecision then 0 else count) f.alternate
  else x.generalForm (max count 1) f.alternate

/-- A number argument with decimals. -/
def real (f : Frame) (letter : Char) (x : Binary64) : Except TemplateError (List Char) :=
  let form :=
    if x.isNaN then ['n', 'a', 'n'] else if x.isInfinite then ['i', 'n', 'f']
    else f.finiteForm letter.toLower x
  f.number (x.isNegative && !x.isNaN) [] (if letter.isUpper then form.map Char.toUpper else form)

/-! ## Characters -/

/-- The character that an argument is.  Code points of surrogates stand for the replacement
character. -/
def characterOf : Json → Except TemplateError Char
  | .string s =>
    match s.toList with
    | [c] => .ok c
    | _ => .error .characterWanted
  | .bool b => .ok (Char.ofNat (if b then 1 else 0))
  | .int n =>
    if n < 0 ∨ 0x10FFFF < n then .error .noCharacter
    else if 0xD800 ≤ n ∧ n ≤ 0xDFFF then .ok (Char.ofNat 0xFFFD)
    else .ok (Char.ofNat n.toNat)
  | _ => .error .characterWanted

/-! ## Arguments -/

/-- An argument in its frame, by the letter at the given index of a template. -/
def write (f : Frame) (letter : Char) (index : Nat) (value : Json) :
    Except TemplateError (List Char) :=
  match letter with
  | 's' => f.text value.display
  | 'r' => f.text value.inner
  | 'a' => f.text (Text.asciiForm value.inner)
  | 'c' => (characterOf value).bind fun c => f.padded [c]
  | 'd' | 'i' | 'u' => (wholeOf letter value).bind (f.integer 10 [])
  | 'x' => (exactOf letter value).bind (f.integer 16 ['0', 'x'])
  | 'X' => (exactOf letter value).bind fun n =>
    (f.integer 16 ['0', 'x'] n).map fun cs => cs.map Char.toUpper
  | 'o' => (exactOf letter value).bind (f.integer 8 ['0', 'o'])
  | 'e' | 'E' | 'f' | 'F' | 'g' | 'G' => (realOf value).bind (f.real letter)
  | _ => .error (.unsupported letter index)

end Frame

end JobChain.Log
