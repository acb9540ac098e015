/-!
# Patterns

A pattern describes the characters of a text from left to right.  A repetition takes as many
characters as it can, and of two alternatives the first is tried first; when the rest of the pattern
fails on what is left over, the repetition gives back one character, and the second alternative is
tried.  A group remembers what its pattern has taken, so of all the ways to match a text the first
that succeeds decides what is remembered.

* `Pattern.matchThen`: matching a pattern and then what follows it.
* `Pattern.match?`: the groups of a text that begins with a pattern.
* `repeatThen_of_stops`: a repetition gives nothing back if what follows cannot begin with a
  character that it takes.
-/

namespace JobChain.Text

/-- What the groups of a pattern have taken, the last one first. -/
abbrev Groups := List (Nat × List Char)

/-- What follows a pattern: it is given the characters left over and the groups so far. -/
abbrev Following := List Char → Groups → Option Groups

/-- A pattern: no character at all, an end of the text, one character, as many characters as there
are, one pattern after another, one or the other of two patterns, or a pattern whose characters are
remembered under a number. -/
inductive Pattern where
  | nothing
  | start
  | finish
  | one (ok : Char → Bool)
  | many (ok : Char → Bool)
  | seq (p q : Pattern)
  | either (p q : Pattern)
  | group (n : Nat) (p : Pattern)

/-- The characters of a text before those that are left over. -/
def taken (cs rest : List Char) : List Char := cs.take (cs.length - rest.length)

/-- The text that a group has taken, which is empty if it did not take part. -/
def Groups.text (groups : Groups) (n : Nat) : List Char := (groups.lookup n).getD []

/-- The text of the first of some groups whose text is not empty. -/
def Groups.firstText (groups : Groups) (ns : List Nat) : List Char :=
  ((ns.map groups.text).find? fun cs => !cs.isEmpty).getD []

/-! ## Matching -/

/-- Taking as many characters as there are, and giving them back one after another until what
follows succeeds. -/
def repeatThen (ok : Char → Bool) (next : List Char → Option Groups) :
    List Char → Option Groups
  | [] => next []
  | c :: cs => if ok c then (repeatThen ok next cs).or (next (c :: cs)) else next (c :: cs)

/-- Matching a pattern and then what follows it.  A text that is matched is at its start as long as
it has its whole length, and at its finish when nothing is left of it or just the end of a line. -/
def Pattern.matchThen (length : Nat) : Pattern → Following → Following
  | nothing, next => next
  | start, next => fun cs groups => if cs.length = length then next cs groups else none
  | finish, next => fun cs groups => if cs = [] ∨ cs = ['\n'] then next cs groups else none
  | one ok, next => fun cs groups =>
    match cs with
    | [] => none
    | c :: rest => if ok c then next rest groups else none
  | many ok, next => fun cs groups => repeatThen ok (fun rest => next rest groups) cs
  | seq p q, next => p.matchThen length (q.matchThen length next)
  | either p q, next => fun cs groups =>
    (p.matchThen length next cs groups).or (q.matchThen length next cs groups)
  | group n p, next => fun cs groups =>
    p.matchThen length (fun rest inner => next rest ((n, taken cs rest) :: inner)) cs groups

/-- The groups of a text that begins with a pattern. -/
def Pattern.match? (p : Pattern) (cs : List Char) : Option Groups :=
  p.matchThen cs.length (fun _ groups => some groups) cs []

/-! ## Patterns made of others -/

namespace Pattern

/-- One given character. -/
def char (c : Char) : Pattern := one (· == c)

/-- The characters of a word. -/
def word (s : String) : Pattern := s.toList.foldr (fun c p => seq (char c) p) nothing

/-- As many characters as there are, and at least one. -/
def several (ok : Char → Bool) : Pattern := seq (one ok) (many ok)

end Pattern

/-! ## Repetitions -/

section Repetition

variable {ok : Char → Bool} {next : List Char → Option Groups} {cs : List Char}

/-- A repetition gives nothing back if what follows cannot begin with a character that it takes. -/
theorem repeatThen_of_stops (h : ∀ c cs, ok c = true → next (c :: cs) = none) :
    repeatThen ok next cs = next (cs.dropWhile ok) := by
  induction cs with
  | nil => rfl
  | cons c cs ih =>
    cases hc : ok c with
    | true =>
      rw [repeatThen, if_pos hc, ih, h c cs hc, Option.or_none, List.dropWhile_cons_of_pos hc]
    | false =>
      rw [repeatThen, hc, if_neg Bool.false_ne_true, List.dropWhile_cons_of_neg (by simp [hc])]

theorem taken_append (cs rest : List Char) : taken (cs ++ rest) rest = cs := by
  rw [taken, List.length_append, Nat.add_sub_cancel, List.take_left]

theorem taken_dropWhile : taken cs (cs.dropWhile ok) = cs.takeWhile ok := by
  conv =>
    enter [1, 1]
    rw [← List.takeWhile_append_dropWhile (p := ok) (l := cs)]
  exact taken_append _ _

end Repetition

end JobChain.Text
