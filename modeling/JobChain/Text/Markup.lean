/-!
# Marked-up text

A small markup for consoles.  A text may hold tags in square brackets, which set the style of what
follows and do not show.  A tag begins with a lowercase ASCII letter or one of three signs, and no
bracket opens inside it; other brackets stand for themselves, and hide a backslash before them.
Backslashes before a tag stand for half as many, and an odd one makes the tag stand for itself.  A
tag that begins with a slash closes the last open tag of its name, or the last open one if it has no
name.

* `escape`: a text with its tags made to stand for themselves.
* `plain?`: what of a marked-up text shows.
-/

namespace JobChain.Text.Markup

/-- Whether a character can begin a tag. -/
def isTagStart (c : Char) : Bool :=
  (decide ('a' ≤ c) && decide (c ≤ 'z')) || c == '#' || c == '/' || c == '@'

/-- The inside of the tag whose opening bracket has just been read, if it is one. -/
def tagBody? : List Char → Option (List Char)
  | [] => none
  | c :: cs =>
    let body := cs.takeWhile fun d => d != '[' && d != ']'
    if isTagStart c && (cs.drop body.length).head? == some ']' then some (c :: body) else none

/-! ## Escaping -/

/-- The escaped form of what follows `slashes` backslashes. -/
def escapeFrom (slashes : Nat) : List Char → List Char
  | [] => []
  | c :: cs =>
    if c = '\\' then c :: escapeFrom (slashes + 1) cs
    else if c = '[' ∧ (tagBody? cs).isSome then
      List.replicate (slashes + 1) '\\' ++ c :: escapeFrom 0 cs
    else c :: escapeFrom 0 cs

/-- Whether a text ends with a single backslash. -/
def endsWithSlash (cs : List Char) : Bool :=
  match cs.reverse with
  | '\\' :: '\\' :: _ => false
  | '\\' :: _ => true
  | _ => false

/-- A text with its tags made to stand for themselves.  A single backslash at the end is doubled, so
that it does not escape a tag that comes after. -/
def escape (s : String) : String :=
  let cs := escapeFrom 0 s.toList
  String.ofList (if endsWithSlash cs then cs ++ ['\\'] else cs)

/-! ## Plain text -/

/-- The names of the open tags after one more tag, the last one first; none if it closes a tag that
is not open. -/
def enterTag (opened : List String) : List Char → Option (List String)
  | ['/'] => if opened.isEmpty then none else some (opened.drop 1)
  | '/' :: name =>
    let name := String.ofList name
    if opened.contains name then some (opened.erase name) else none
  | name => some (String.ofList name :: opened)

/-- Where a reader of a marked-up text is: outside of tags, in a tag that does not show, or in one
that stands for itself. -/
inductive Region where
  | outside
  | hidden
  | kept
deriving DecidableEq, Repr

/-- What shows of a marked-up text from some place on: `slashes` backslashes stand just before the
place, which is in the given region, and `opened` are the names of the open tags. -/
def plainFrom (slashes : Nat) (region : Region) (opened : List String) :
    List Char → Option (List Char)
  | [] => some (List.replicate slashes '\\')
  | c :: cs =>
    match region with
    | .hidden => plainFrom 0 (if c = ']' then .outside else .hidden) opened cs
    | .kept => (plainFrom 0 (if c = ']' then .outside else .kept) opened cs).map (c :: ·)
    | .outside =>
      if c = '\\' then plainFrom (slashes + 1) .outside opened cs
      else if c = '[' then
        match tagBody? cs with
        | none => (plainFrom 0 .outside opened cs).map (List.replicate (slashes - 1) '\\' ++ c :: ·)
        | some body =>
          if slashes % 2 = 1 then
            (plainFrom 0 .kept opened cs).map (List.replicate (slashes / 2) '\\' ++ c :: ·)
          else
            match enterTag opened body with
            | none => none
            | some opened =>
              (plainFrom 0 .hidden opened cs).map (List.replicate (slashes / 2) '\\' ++ ·)
      else (plainFrom 0 .outside opened cs).map (List.replicate slashes '\\' ++ c :: ·)

/-- What shows of a marked-up text, unless it closes a tag that is not open. -/
def plain? (s : String) : Option String := (plainFrom 0 .outside [] s.toList).map String.ofList

end JobChain.Text.Markup
