import JobChain.Binary64.Rounding
import JobChain.Json.Basic
import JobChain.Table
import JobChain.Text.Encoding

/-!
# Reading JSON text

A reader for JSON text that also takes `NaN`, `Infinity` and `-Infinity`.  Of two members with one
name the last wins, in the place of the first.  A control character inside a string is refused, and
an unpaired surrogate escape is read as the replacement character, because no text can hold it.

Every fault is located.  The reading functions take the rest of the text, and a fault carries the
length of the rest at which it was found; `Json.read` turns that into a position, a line and a
column.

* `readUnits`: the inside of a string, as code units.
* `readNumber`: the longest number at the front of a text.
* `readValue`: a value at the front of a text, with what is left.
* `Json.read`: the value that a text is, or why it is none.
-/

namespace JobChain.Json

/-- Why a text is not a JSON value. -/
inductive ReadFault where
  | value
  | propertyName
  | colon
  | comma
  | extraData
  | unterminatedString
  | controlCharacter
  | escape
  | unicodeEscape
  | byteOrderMark
deriving DecidableEq, Repr

/-- A fault, with the length of the rest of the text at which it was found. -/
structure Stop where
  fault : ReadFault
  remaining : Nat
deriving DecidableEq, Repr

/-! ## Blank space and digits -/

/-- Whether a character separates the parts of a JSON text. -/
def isSpace (c : Char) : Bool := c == ' ' || c == '\t' || c == '\n' || c == '\r'

/-- The rest of a text after the separating characters at its front. -/
def skipSpace (s : List Char) : List Char := s.dropWhile isSpace

/-- Whether a character is a decimal digit. -/
def isDigit (c : Char) : Bool := decide ('0' ≤ c) && decide (c ≤ '9')

/-- The value of a decimal digit. -/
def digitValue (c : Char) : Nat := c.toNat - 48

/-- The value of a run of decimal digits that follows the digits of `acc`. -/
def digitsValue (acc : Nat) (ds : List Char) : Nat :=
  ds.foldl (fun n c => n * 10 + digitValue c) acc

/-- The value of a hexadecimal digit of either case. -/
def hexValue? (c : Char) : Option Nat :=
  if isDigit c then some (c.toNat - 48)
  else if 'a' ≤ c ∧ c ≤ 'f' then some (c.toNat - 87)
  else if 'A' ≤ c ∧ c ≤ 'F' then some (c.toNat - 55)
  else none

/-- The value of four hexadecimal digits. -/
def hexValue4? (a b c d : Char) : Option Nat := do
  let a ← hexValue? a
  let b ← hexValue? b
  let c ← hexValue? c
  let d ← hexValue? d
  return ((a * 16 + b) * 16 + c) * 16 + d

/-! ## Strings -/

/-- The character that a short escape stands for. -/
def shortEscape? : Char → Option Char
  | '"' => some '"'
  | '\\' => some '\\'
  | '/' => some '/'
  | 'b' => some (Char.ofNat 8)
  | 'f' => some (Char.ofNat 12)
  | 'n' => some '\n'
  | 'r' => some '\r'
  | 't' => some '\t'
  | _ => none

/-- Adds a unit in front of the units that were read. -/
def consUnit (n : Nat) : Except Stop (List Nat × List Char) → Except Stop (List Nat × List Char)
  | .ok (units, rest) => .ok (n :: units, rest)
  | .error e => .error e

/-- The code units of a string up to its closing quotation mark, with what follows the mark.  The
string was opened where `opened` characters were left.  An escape in four digits has to be followed
by a further character. -/
def readUnits (opened : Nat) : List Char → Except Stop (List Nat × List Char)
  | [] => .error ⟨.unterminatedString, opened⟩
  | '"' :: rest => .ok ([], rest)
  | ['\\'] => .error ⟨.unterminatedString, opened⟩
  | '\\' :: 'u' :: a :: b :: c :: d :: rest =>
    match hexValue4? a b c d with
    | some n =>
      if rest.isEmpty then .error ⟨.unicodeEscape, 5⟩ else consUnit n (readUnits opened rest)
    | none => .error ⟨.unicodeEscape, rest.length + 5⟩
  | '\\' :: e :: rest =>
    if e = 'u' then .error ⟨.unicodeEscape, rest.length + 1⟩
    else
      match shortEscape? e with
      | some c => consUnit c.toNat (readUnits opened rest)
      | none => .error ⟨.escape, rest.length + 2⟩
  | c :: rest =>
    if c.toNat < 0x20 then .error ⟨.controlCharacter, rest.length + 1⟩
    else consUnit c.toNat (readUnits opened rest)

/-- The string whose opening quotation mark has just been passed, with what follows it. -/
def readString (rest : List Char) : Except Stop (String × List Char) :=
  match readUnits (rest.length + 1) rest with
  | .ok (units, rest) => .ok (String.ofList (Text.Encoding.charsOfUnits units), rest)
  | .error e => .error e

/-! ## Numbers -/

/-- The digits after a decimal point, with what follows them, if a digit follows the point. -/
def readFraction : List Char → Option (List Char × List Char)
  | '.' :: rest =>
    let ds := rest.takeWhile isDigit
    if ds.isEmpty then none else some (ds, rest.dropWhile isDigit)
  | _ => none

/-- The sign of an exponent, with what follows it. -/
def readExponentSign : List Char → Bool × List Char
  | '-' :: rest => (true, rest)
  | '+' :: rest => (false, rest)
  | rest => (false, rest)

/-- An exponent, with what follows it, if a digit follows its mark and sign. -/
def readExponent : List Char → Option (Int × List Char)
  | c :: rest =>
    if c = 'e' ∨ c = 'E' then
      let (negative, rest) := readExponentSign rest
      let ds := rest.takeWhile isDigit
      if ds.isEmpty then none
      else
        let n := Int.ofNat (digitsValue 0 ds)
        some (if negative then -n else n, rest.dropWhile isDigit)
    else none
  | [] => none

/-- The digits before the point, with what follows them: a single zero, or digits without a zero in
front. -/
def readWhole : List Char → Option (List Char × List Char)
  | '0' :: rest => some (['0'], rest)
  | c :: rest =>
    if isDigit c then some (c :: rest.takeWhile isDigit, rest.dropWhile isDigit) else none
  | [] => none

/-- The number without a sign at the front of a text, with what follows it.  It is an integer unless
it has a fraction or an exponent. -/
def readMagnitude (negative : Bool) (s : List Char) : Option (Json × List Char) :=
  match readWhole s with
  | none => none
  | some (whole, rest) =>
    let fraction := readFraction rest
    let (ds, afterFraction) := fraction.getD ([], rest)
    let exponent := readExponent afterFraction
    if fraction.isNone && exponent.isNone then
      let n := Int.ofNat (digitsValue 0 whole)
      some (int (if negative then -n else n), rest)
    else
      let (e, rest) := exponent.getD (0, afterFraction)
      some (float (Binary64.ofDecimal negative (digitsValue (digitsValue 0 whole) ds)
        (e - Int.ofNat ds.length)), rest)

/-- The number at the front of a text, with what follows it. -/
def readNumber (s : List Char) : Except Stop (Json × List Char) :=
  let result :=
    match s with
    | '-' :: rest => readMagnitude true rest
    | _ => readMagnitude false s
  match result with
  | some found => .ok found
  | none => .error ⟨.value, s.length⟩

/-! ## Values -/

/-- The rest of a text after a word at its front. -/
def afterWord? : List Char → List Char → Option (List Char)
  | [], rest => some rest
  | _ :: _, [] => none
  | c :: word, d :: rest => if c = d then afterWord? word rest else none

/-- The values written as words. -/
def words : List (List Char × Json) :=
  [("null".toList, null), ("true".toList, bool true), ("false".toList, bool false),
    ("NaN".toList, float Binary64.nan), ("Infinity".toList, float (Binary64.infinity false)),
    ("-Infinity".toList, float (Binary64.infinity true))]

/-- The value written as a word at the front of a text, with what follows it. -/
def readWord? (s : List Char) : Option (Json × List Char) :=
  words.findSome? fun w => (afterWord? w.1 s).map fun rest => (w.2, rest)

/-- A word or a number at the front of a text, with what follows it. -/
def readAtom (s : List Char) : Except Stop (Json × List Char) :=
  match readWord? s with
  | some found => .ok found
  | none => readNumber s

mutual

/-- The value at the front of a text, with what follows it.  The first argument bounds the depth of
the reading.  Of two levels in a row at least one reads a character, so that twice the length of the
text is enough. -/
def readValue : Nat → List Char → Except Stop (Json × List Char)
  | 0, s => .error ⟨.value, s.length⟩
  | depth + 1, s =>
    match s with
    | '"' :: rest =>
      match readString rest with
      | .ok (text, rest) => .ok (string text, rest)
      | .error e => .error e
    | '[' :: rest =>
      match skipSpace rest with
      | ']' :: rest => .ok (array [], rest)
      | rest =>
        match readItems depth rest with
        | .ok (items, rest) => .ok (array items, rest)
        | .error e => .error e
    | '{' :: rest =>
      match skipSpace rest with
      | '}' :: rest => .ok (object [], rest)
      | rest =>
        match readMembers depth rest with
        | .ok (members, rest) => .ok (object (Table.ofEntries members), rest)
        | .error e => .error e
    | s => readAtom s

/-- The items of an array from one of them on, with what follows the closing bracket. -/
def readItems : Nat → List Char → Except Stop (List Json × List Char)
  | 0, s => .error ⟨.value, s.length⟩
  | depth + 1, s =>
    match readValue depth s with
    | .error e => .error e
    | .ok (item, rest) =>
      match skipSpace rest with
      | ']' :: rest => .ok ([item], rest)
      | ',' :: rest =>
        match readItems depth (skipSpace rest) with
        | .ok (items, rest) => .ok (item :: items, rest)
        | .error e => .error e
      | rest => .error ⟨.comma, rest.length⟩

/-- The members of an object from one of them on, with what follows the closing brace. -/
def readMembers : Nat → List Char → Except Stop (List (String × Json) × List Char)
  | 0, s => .error ⟨.value, s.length⟩
  | depth + 1, s =>
    match s with
    | '"' :: rest =>
      match readString rest with
      | .error e => .error e
      | .ok (name, rest) =>
        match skipSpace rest with
        | ':' :: rest =>
          match readValue depth (skipSpace rest) with
          | .error e => .error e
          | .ok (value, rest) =>
            match skipSpace rest with
            | '}' :: rest => .ok ([(name, value)], rest)
            | ',' :: rest =>
              match readMembers depth (skipSpace rest) with
              | .ok (members, rest) => .ok ((name, value) :: members, rest)
              | .error e => .error e
            | rest => .error ⟨.comma, rest.length⟩
        | rest => .error ⟨.colon, rest.length⟩
    | s => .error ⟨.propertyName, s.length⟩

end

/-! ## Whole texts -/

/-- The value that a text is, with blank space around it allowed. -/
def readText (s : List Char) : Except Stop Json :=
  match readValue (2 * s.length + 2) (skipSpace s) with
  | .error e => .error e
  | .ok (value, rest) =>
    match skipSpace rest with
    | [] => .ok value
    | rest => .error ⟨.extraData, rest.length⟩

/-- A fault and its place: the position counts characters from zero, line and column from one. -/
structure ReadError where
  fault : ReadFault
  position : Nat
  line : Nat
  column : Nat
deriving DecidableEq, Repr

/-- The place of a fault in a text. -/
def Stop.locate (s : List Char) (e : Stop) : ReadError :=
  let position := s.length - e.remaining
  let before := s.take position
  { fault := e.fault
    position
    line := before.count '\n' + 1
    column := (before.reverse.takeWhile (· != '\n')).length + 1 }

/-- The value that a text is.  A byte-order mark in front is a fault of its own. -/
def read (s : String) : Except ReadError Json :=
  let cs := s.toList
  if cs.head? = some (Char.ofNat 0xFEFF) then .error (Stop.locate cs ⟨.byteOrderMark, cs.length⟩)
  else (readText cs).mapError (Stop.locate cs)

/-- What is wrong with a text. -/
def ReadFault.message : ReadFault → String
  | .value => "Expecting value"
  | .propertyName => "Expecting property name enclosed in double quotes"
  | .colon => "Expecting ':' delimiter"
  | .comma => "Expecting ',' delimiter"
  | .extraData => "Extra data"
  | .unterminatedString => "Unterminated string starting at"
  | .controlCharacter => "Invalid control character at"
  | .escape => "Invalid \\escape"
  | .unicodeEscape => "Invalid \\uXXXX escape"
  | .byteOrderMark => "Unexpected UTF-8 BOM (decode using utf-8-sig)"

/-- The message of a located fault. -/
def ReadError.message (e : ReadError) : String :=
  e.fault.message ++ ": line " ++ toString e.line ++ " column " ++ toString e.column ++
    " (char " ++ toString e.position ++ ")"

end JobChain.Json
