import JobChain.Text.CaseTable

/-!
# Lowercasing

The full lowercase form of a text.  Most characters have a form of their own, read off
`lowerRanges`; two do not.

* The capital dotted I, `U+0130`, becomes two characters: `i` and a combining dot above.
* The capital sigma becomes a final sigma at the end of a word and a medial one elsewhere.  It ends
  a word when the nearest character before it that is not case-ignorable is cased, and the nearest
  such character after it is not.

`lowerChars` carries along whether the nearest character before is cased, so that one pass decides
every sigma.

* `lowerChars_cons`: the characters of a lowercase form, one at a time.
-/

namespace JobChain.Text

/-- The code point of the lowercase form of a character whose form is a single character. -/
def lowerCode (n : Nat) : Nat :=
  match lowerRanges.find? (·.covers n) with
  | some r => (Int.ofNat n + r.shift).toNat
  | none => n

/-- The lowercase form of a character on its own. -/
def lowerChar (c : Char) : List Char :=
  if c.toNat = 0x130 then ['i', Char.ofNat 0x307] else [Char.ofNat (lowerCode c.toNat)]

/-- Whether a character is passed over when looking for a cased neighbour. -/
def isCaseIgnorable (c : Char) : Bool := inRanges caseIgnorableRanges c.toNat

/-- Whether a character that is not case-ignorable has a case. -/
def isCased (c : Char) : Bool := inRanges casedRanges c.toNat

/-- Whether the first character that is not case-ignorable is cased. -/
def startsCased (cs : List Char) : Bool :=
  match cs.dropWhile isCaseIgnorable with
  | [] => false
  | c :: _ => isCased c

/-- Whether the nearest character before is cased, once `c` has been passed. -/
def casedAfter (before : Bool) (c : Char) : Bool :=
  if isCaseIgnorable c then before else isCased c

/-- The lowercase form of one character between its neighbours. -/
def lowerAt (before : Bool) (c : Char) (after : List Char) : List Char :=
  if c.toNat = 0x3A3 then
    if before && !startsCased after then [Char.ofNat 0x3C2] else [Char.ofNat 0x3C3]
  else lowerChar c

/-- The lowercase form of the characters that follow a cased character, if `before` is true, or one
that is not. -/
def lowerChars (before : Bool) : List Char → List Char
  | [] => []
  | c :: cs => lowerAt before c cs ++ lowerChars (casedAfter before c) cs

@[simp] theorem lowerChars_nil (before : Bool) : lowerChars before [] = [] := rfl

theorem lowerChars_cons (before : Bool) (c : Char) (cs : List Char) :
    lowerChars before (c :: cs) = lowerAt before c cs ++ lowerChars (casedAfter before c) cs := rfl

/-- The lowercase form of a text. -/
def lower (s : String) : String := String.ofList (lowerChars false s.toList)

@[simp] theorem toList_lower (s : String) : (lower s).toList = lowerChars false s.toList := by
  simp [lower]

end JobChain.Text
