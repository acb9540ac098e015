import JobChain.Binary64.Rounding
import JobChain.Json.Reader
import JobChain.Schema.Issue
import JobChain.Text.Blank

/-!
# Readings of single values

Texts, integers, floating-point numbers and truth values, each read from the JSON values that stand
for one.  A text is read as itself only; the other three are also read from texts and from each
other where nothing is lost.

* `integerOfText?`: the integer that a text denotes.
* `numberOfText?`: the floating-point number that a text denotes.
* `truthOfText?`: the truth value that a text denotes.
* `readText`, `readInteger`, `readNumber`, `readTruth`: the readings.
-/

namespace JobChain.Schema

open Json (isDigit digitsValue)

/-! ## Numbers in texts -/

/-- The digits of a text in which single underscores may stand between digits. -/
def groupedDigits? : List Char → Option (List Char)
  | [] => none
  | [c] => if isDigit c then some [c] else none
  | c :: '_' :: rest => if isDigit c then (groupedDigits? rest).map (c :: ·) else none
  | c :: rest => if isDigit c then (groupedDigits? rest).map (c :: ·) else none

/-- The sign of a number, with what follows it. -/
def splitSign : List Char → Bool × List Char
  | '-' :: rest => (true, rest)
  | '+' :: rest => (false, rest)
  | cs => (false, cs)

/-- Whether a text is nothing, or a point with zeros after it. -/
def isZeroFraction : List Char → Bool
  | [] => true
  | '.' :: zeros => !zeros.isEmpty && zeros.all (· == '0')
  | _ => false

/-- The integer that a text denotes: digits with a sign and white space around them allowed, and
with zeros after a point. -/
def integerOfText? (s : String) : Option Int :=
  let (negative, cs) := splitSign (Text.strip Text.isUnicodeSpace s.toList)
  if isZeroFraction (cs.dropWhile (· != '.')) then
    (groupedDigits? (cs.takeWhile (· != '.'))).map fun ds =>
      let n := Int.ofNat (digitsValue 0 ds)
      if negative then -n else n
  else none

/-- An ASCII letter in lower case. -/
def asciiLower (c : Char) : Char :=
  if 'A' ≤ c ∧ c ≤ 'Z' then Char.ofNat (c.toNat + 32) else c

/-- A number in decimal digits, with a point and an exponent allowed. -/
def decimalOfChars? (negative : Bool) (cs : List Char) : Option Binary64 :=
  let whole := cs.takeWhile isDigit
  let (fraction, rest) :=
    match cs.dropWhile isDigit with
    | '.' :: rest => (rest.takeWhile isDigit, rest.dropWhile isDigit)
    | rest => ([], rest)
  if whole.isEmpty && fraction.isEmpty then none
  else
    let exponent? :=
      match rest with
      | [] => some 0
      | rest =>
        match Json.readExponent rest with
        | some (e, []) => some e
        | _ => none
    exponent?.map fun e =>
      Binary64.ofDecimal negative (digitsValue (digitsValue 0 whole) fraction)
        (e - Int.ofNat fraction.length)

/-- A number in decimal digits, or the word for an infinity or for no number. -/
def signedNumber? (cs : List Char) : Option Binary64 :=
  let (negative, cs) := splitSign cs
  let word := String.ofList (cs.map asciiLower)
  if word = "inf" ∨ word = "infinity" then some (Binary64.infinity negative)
  else if word = "nan" then some Binary64.nan
  else decimalOfChars? negative cs

/-- Whether two underscores stand side by side. -/
def hasUnderscorePair : List Char → Bool
  | '_' :: '_' :: _ => true
  | _ :: cs => hasUnderscorePair cs
  | [] => false

/-- A text without its underscores, if they stand alone and not at an end. -/
def withoutUnderscores? (cs : List Char) : Option (List Char) :=
  if cs.head? = some '_' ∨ cs.getLast? = some '_' ∨ hasUnderscorePair cs then none
  else some (cs.filter (· != '_'))

/-- The floating-point number that a text denotes, with white space around it allowed. -/
def numberOfText? (s : String) : Option Binary64 :=
  let cs := Text.strip Text.isUnicodeSpace s.toList
  (withoutUnderscores? cs).bind signedNumber?

/-! ## Truth values in texts -/

/-- The words for falsehood, in lower case. -/
def falseWords : List String := ["0", "off", "f", "false", "n", "no"]

/-- The words for truth, in lower case. -/
def trueWords : List String := ["1", "on", "t", "true", "y", "yes"]

/-- The truth value that a text denotes, in letters of either case. -/
def truthOfText? (s : String) : Option Bool :=
  let word := String.ofList (s.toList.map asciiLower)
  if falseWords.contains word then some false
  else if trueWords.contains word then some true
  else none

/-! ## Readings -/

/-- A reading of what may be absent. -/
def Checked.ofOption {α : Type} (f : Fault) : Option α → Checked α
  | some a => .ok a
  | none => .fault f

/-- Whether an integer fits into 64 bits with a sign. -/
def isWord (n : Int) : Bool :=
  decide (-Int.ofNat (Nat.pow 2 63) ≤ n) && decide (n < Int.ofNat (Nat.pow 2 63))

/-- A text. -/
def readText : Json → Checked String
  | .string s => .ok s
  | _ => .fault .text

/-- An integer.  A floating-point number has to be integral and to fit into 64 bits. -/
def readInteger : Json → Checked Int
  | .int n => .ok n
  | .bool b => .ok (if b then 1 else 0)
  | .string s => Checked.ofOption .integerText (integerOfText? s)
  | .float x =>
    if x.isFinite then
      match x.integer? with
      | some n => if isWord n then .ok n else .fault .integerSize
      | none => .fault .integerFraction
    else .fault .finite
  | _ => .fault .integer

/-- A floating-point number.  An integer has to be small enough to be finite. -/
def readNumber : Json → Checked Binary64
  | .float x => .ok x
  | .int n => Checked.ofOption .number (Binary64.ofInt? n)
  | .bool b => .ok (if b then Binary64.one else Binary64.zero)
  | .string s => Checked.ofOption .numberText (numberOfText? s)
  | _ => .fault .number

/-- The truth value that an integer stands for. -/
def truthOfInteger (n : Int) : Checked Bool :=
  if isWord n then
    if n = 0 then .ok false else if n = 1 then .ok true else .fault .truthText
  else .fault .truth

/-- A truth value.  Of the numbers, zero and one stand for one. -/
def readTruth : Json → Checked Bool
  | .bool b => .ok b
  | .int n => truthOfInteger n
  | .float x =>
    match x.integer? with
    | some n => truthOfInteger n
    | none => .fault .truth
  | .string s => Checked.ofOption .truthText (truthOfText? s)
  | _ => .fault .truth

/-- A value that may be null instead. -/
def readOptional {α : Type} (read : Json → Checked α) : Json → Checked (Option α)
  | .null => .ok none
  | value => (read value).map some

/-- A dictionary of any values. -/
def readDictionary : Json → Checked (List (String × Json))
  | .object members => .ok members
  | _ => .fault .dictionary

end JobChain.Schema
