import JobChain.Json.Reader

/-!
# Places in templates

A template is a text with places for arguments.  A place begins with a percent sign and ends with a
letter that says how the argument is written.  Between them stand flags, a width, a precision after
a point, and a letter of size that means nothing; an asterisk stands for a width or a precision that
is an argument too.  Two percent signs stand for one.

* `readPlace`: the place whose percent sign has just been read.
* `pieces`: a template as its texts and places, in order.
-/

namespace JobChain.Log

/-- The flags of a place: on the left, with a plus sign, with a blank for a sign, in the other form,
with zeros before it. -/
structure Flags where
  left : Bool := false
  plus : Bool := false
  blank : Bool := false
  alternate : Bool := false
  zeros : Bool := false
deriving DecidableEq, Repr

/-- Flags with one more, if a character is one. -/
def Flags.with? (f : Flags) (c : Char) : Option Flags :=
  if c = '-' then some { f with left := true }
  else if c = '+' then some { f with plus := true }
  else if c = ' ' then some { f with blank := true }
  else if c = '#' then some { f with alternate := true }
  else if c = '0' then some { f with zeros := true }
  else none

/-- A width or a precision: a number that the template tells, or an argument. -/
inductive Extent where
  | told (n : Nat)
  | argument
deriving DecidableEq, Repr

/-- A place: what stands before its letter, the letter, unless the template ends before it, and the
index of the letter in the template. -/
structure Place where
  flags : Flags
  width : Option Extent
  precision : Option Extent
  letter : Option Char
  index : Nat
deriving DecidableEq, Repr

/-- A piece of a template: text, a place, or a place that asks for an argument by name. -/
inductive Piece where
  | text (cs : List Char)
  | place (p : Place)
  | named
deriving DecidableEq, Repr

/-! ## Reading -/

/-- The flags at the front of a text, beside those before it, and what is left. -/
def readFlags (f : Flags) : List Char → Flags × List Char
  | [] => (f, [])
  | c :: cs =>
    match f.with? c with
    | some g => readFlags g cs
    | none => (f, c :: cs)

/-- The width or precision at the front of a text, and what is left. -/
def readExtent (cs : List Char) : Option Extent × List Char :=
  if cs.head? = some '*' then (some .argument, cs.drop 1)
  else
    let digits := cs.takeWhile Json.isDigit
    (if digits.isEmpty then none else some (.told (Json.digitsValue 0 digits)),
      cs.drop digits.length)

/-- The precision at the front of a text, and what is left.  A point alone stands for zero. -/
def readPrecision (cs : List Char) : Option Extent × List Char :=
  if cs.head? = some '.' then
    (some ((readExtent (cs.drop 1)).1.getD (.told 0)), (readExtent (cs.drop 1)).2)
  else (none, cs)

/-- What is left of a text after a letter of size, if it begins with one. -/
def skipSize (cs : List Char) : List Char :=
  if ['h', 'l', 'L'].any fun c => cs.head? == some c then cs.drop 1 else cs

/-- The place whose percent sign has just been read, in a template of the given size, and what is
left of the template. -/
def readPlace (size : Nat) (cs : List Char) : Place × List Char :=
  let flags := readFlags {} cs
  let width := readExtent flags.2
  let precision := readPrecision width.2
  let rest := skipSize precision.2
  ({ flags := flags.1, width := width.1, precision := precision.1, letter := rest.head?
     index := size - rest.length }, rest.drop 1)

theorem length_readFlags_le (f : Flags) (cs : List Char) :
    (readFlags f cs).2.length ≤ cs.length := by
  induction cs generalizing f with
  | nil => exact Nat.le_refl 0
  | cons c cs ih =>
    rw [readFlags]
    split
    · exact Nat.le_succ_of_le (ih _)
    · exact Nat.le_refl _

theorem length_readExtent_le (cs : List Char) : (readExtent cs).2.length ≤ cs.length := by
  rw [readExtent]
  split <;> simp

theorem length_readPrecision_le (cs : List Char) : (readPrecision cs).2.length ≤ cs.length := by
  rw [readPrecision]
  split
  · exact Nat.le_trans (length_readExtent_le _) (by simp)
  · exact Nat.le_refl _

theorem length_skipSize_le (cs : List Char) : (skipSize cs).length ≤ cs.length := by
  rw [skipSize]
  split <;> simp

/-- A place uses up what it has read. -/
theorem length_readPlace_le (size : Nat) (cs : List Char) :
    (readPlace size cs).2.length ≤ cs.length := by
  have hp := length_readPrecision_le (readExtent (readFlags {} cs).2).2
  have hs := length_skipSize_le (readPrecision (readExtent (readFlags {} cs).2).2).2
  have he := length_readExtent_le (readFlags {} cs).2
  have hf := length_readFlags_le {} cs
  simp only [readPlace, List.length_drop]
  omega

/-- The pieces of what is left of a template of the given size. -/
def piecesFrom (size : Nat) (cs : List Char) : List Piece :=
  match cs with
  | [] => []
  | '%' :: '%' :: rest => .text ['%'] :: piecesFrom size rest
  | '%' :: '(' :: _ => [.named]
  | '%' :: rest => .place (readPlace size rest).1 :: piecesFrom size (readPlace size rest).2
  | c :: rest =>
    .text (c :: rest.takeWhile (· != '%')) :: piecesFrom size (rest.dropWhile (· != '%'))
termination_by cs.length
decreasing_by
  · simp only [List.length_cons]
    omega
  · exact Nat.lt_succ_of_le (length_readPlace_le size rest)
  · exact Nat.lt_succ_of_le (List.dropWhile_sublist _).length_le

/-- A template as its texts and places. -/
def pieces (template : List Char) : List Piece := piecesFrom template.length template

end JobChain.Log
