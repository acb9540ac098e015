import JobChain.Table
import JobChain.Text.Blank
import JobChain.Text.Newline

/-!
# Files of variables

A file of variables binds names to values, one binding to a line.

* `NAME=value` binds a value as it stands, up to a comment and without blanks at its ends.  The
  value may be empty.
* `NAME='value'` and `NAME="value"` bind a value that may hold blanks, comment signs and line ends.
  Inside, a backslash escapes the mark and itself, and between double marks some letters too.
* `NAME` alone binds nothing, and the word `export` before a name does not count.
* A number sign begins a comment, except inside a value where no blank stands before it.

A line that is none of these is passed over.  A value may refer to a variable by its name, or give
text to use in its place if there is none: between a dollar sign with an opening brace and a closing
brace.

* `bindingsOf`: the bindings of a text.
* `read`: the variables of a file, references resolved.
-/

namespace JobChain.Dotenv

/-- A name and what it is bound to, if anything. -/
abbrev Binding := String × Option String

/-- Whether a character is blank and does not end a line. -/
def isInlineBlank (c : Char) : Bool := Text.isBlank c && c != '\n'

/-- The rest of a text after the blanks at its front, on one line. -/
def skipInline (cs : List Char) : List Char := cs.dropWhile isInlineBlank

/-- The rest of a text after its first line. -/
def skipLine (cs : List Char) : List Char := (cs.dropWhile (· != '\n')).drop 1

/-! ## Names -/

/-- Whether a character can stand in a bare name. -/
def isNamePart (c : Char) : Bool := c != '=' && c != '#' && !Text.isBlank c

/-- The rest of a text after the word `export` and blanks, if it begins so. -/
def skipExport (cs : List Char) : List Char :=
  let rest := cs.drop 6
  if cs.take 6 = "export".toList ∧ skipInline rest ≠ rest then skipInline rest else cs

/-- The name at the front of a text, with what follows it. -/
def readName : List Char → Option (List Char × List Char)
  | '\'' :: cs =>
    let name := cs.takeWhile (· != '\'')
    match cs.drop name.length with
    | _ :: rest => if name.isEmpty then none else some (name, rest)
    | [] => none
  | cs =>
    let name := cs.takeWhile isNamePart
    if name.isEmpty then none else some (name, cs.drop name.length)

/-! ## Values -/

/-- The inside of a value after its opening mark and what follows the closing one.  A mark after a
backslash closes nothing; `escaped` tells that a backslash stands just before. -/
def splitQuoted? (mark : Char) (escaped : Bool) : List Char → Option (List Char × List Char)
  | [] => none
  | c :: cs =>
    if c = mark ∧ !escaped then some ([], cs)
    else (splitQuoted? mark (c == '\\') cs).map fun p => (c :: p.1, p.2)

/-- The inside of a value and what follows it, where the last mark closes the value. -/
def splitAtLast? (mark : Char) (cs : List Char) : Option (List Char × List Char) :=
  let after := cs.reverse.takeWhile (· != mark)
  let before := cs.take (cs.length - after.length - 1)
  if cs.contains mark then some (before, after.reverse) else none

/-- What the letter after a backslash stands for between double marks, besides itself. -/
def letterEscape? : Char → Option Char
  | 'a' => some (Char.ofNat 7)
  | 'b' => some (Char.ofNat 8)
  | 'f' => some (Char.ofNat 12)
  | 'n' => some '\n'
  | 'r' => some '\r'
  | 't' => some '\t'
  | 'v' => some (Char.ofNat 11)
  | _ => none

/-- What a character after a backslash stands for between marks, if the pair is an escape. -/
def escape? (mark c : Char) : Option Char :=
  if c = '\\' ∨ c = '\'' then some c
  else if mark = '"' then if c = '"' then some c else letterEscape? c
  else none

/-- A text with its escapes resolved. -/
def resolveEscapes (mark : Char) : List Char → List Char
  | [] => []
  | '\\' :: c :: cs =>
    match escape? mark c with
    | some d => d :: resolveEscapes mark cs
    | none => '\\' :: resolveEscapes mark (c :: cs)
  | c :: cs => c :: resolveEscapes mark cs

/-- The rest of a line up to a comment: blanks with a number sign after them. -/
def cutComment : List Char → List Char
  | [] => []
  | c :: cs =>
    if Text.isBlank c ∧ ((c :: cs).dropWhile Text.isBlank).head? = some '#' then []
    else c :: cutComment cs

/-- The value without marks at the front of a text, with what follows it: the rest of the line up to
a comment, without blanks at its ends. -/
def readBare (cs : List Char) : List Char × List Char :=
  let line := cs.takeWhile (· != '\n')
  (Text.trimChars (cutComment line), cs.drop line.length)

/-- The value at the front of a text, with what follows it.  The blanks before a value may also come
before a comment, and then the value is empty. -/
def readValue (cs : List Char) : Option (List Char × List Char) :=
  match skipInline cs with
  | [] => some (readBare cs)
  | c :: rest =>
    if c = '\'' ∨ c = '"' then
      ((splitQuoted? c false rest).or (splitAtLast? c rest)).map fun p =>
        (resolveEscapes c p.1, p.2)
    else some (readBare cs)

/-! ## Bindings -/

/-- The rest of a text after the end of a line, which blanks and a comment may precede. -/
def endLine? (cs : List Char) : Option (List Char) :=
  let rest := match skipInline cs with
    | '#' :: rest => rest.dropWhile (· != '\n')
    | rest => rest
  match rest with
  | [] => some []
  | c :: rest => if c = '\n' then some rest else none

/-- The binding at the front of a text that does not begin with a blank, if it is one, and what is
left of the text after it. -/
def readBinding (cs : List Char) : Option Binding × List Char :=
  let start := skipExport cs
  if start.head? = some '#' then (none, skipLine start)
  else
    match readName start with
    | none => (none, skipLine start)
    | some (name, rest) =>
      match skipInline rest with
      | '=' :: rest =>
        match readValue rest with
        | none => (none, skipLine (skipInline rest))
        | some (value, rest) =>
          match endLine? rest with
          | some rest => (some (String.ofList name, some (String.ofList value)), rest)
          | none => (none, skipLine rest)
      | rest =>
        match endLine? rest with
        | some rest => (some (String.ofList name, none), rest)
        | none => (none, skipLine rest)

/-- The bindings of a text. -/
def bindingsOf (cs : List Char) : List Binding :=
  let start := cs.dropWhile Text.isBlank
  if start.isEmpty then []
  else
    let (binding?, rest) := readBinding start
    if rest.length < cs.length then binding?.toList ++ bindingsOf rest else binding?.toList
termination_by cs.length

/-! ## References -/

/-- The name of a reference whose opening brace has just been read, the text to use if there is no
such variable, and what follows the reference. -/
def readReference? (cs : List Char) : Option (List Char × List Char × List Char) :=
  let isEnd (c : Char) : Bool := c.toNat == 0x7D
  let name := cs.takeWhile fun c => !isEnd c && c != ':'
  match cs.drop name.length with
  | ':' :: '-' :: rest =>
    let instead := rest.takeWhile fun c => !isEnd c
    match rest.drop instead.length with
    | _ :: rest => some (name, instead, rest)
    | [] => none
  | c :: rest => if isEnd c then some (name, [], rest) else none
  | [] => none

/-- A value with its references resolved. -/
def resolve (known : String → Option String) (cs : List Char) : List Char :=
  match cs with
  | [] => []
  | '$' :: c :: cs =>
    match if c.toNat = 0x7B then readReference? cs else none with
    | some (name, instead, rest) =>
      let value := ((known (String.ofList name)).map String.toList).getD instead
      if rest.length ≤ cs.length then value ++ resolve known rest else value
    | none => '$' :: resolve known (c :: cs)
  | c :: cs => c :: resolve known cs
termination_by cs.length

/-- Bindings with their references resolved, each by the bindings before it and else by `outer`. -/
def resolveAll (outer : Table String) (known : Table (Option String)) :
    List Binding → Table (Option String)
  | [] => known
  | (name, value?) :: rest =>
    let valueOf (n : String) : Option String :=
      match known.get? n with
      | some v? => some (v?.getD "")
      | none => outer.get? n
    let resolved := value?.map fun v => String.ofList (resolve valueOf v.toList)
    resolveAll outer (known.put name resolved) rest

/-- The variables of a file, given those of the environment. -/
def read (environment : Table String) (content : String) : Table (Option String) :=
  resolveAll environment [] (bindingsOf (Text.withLineFeeds content).toList)

end JobChain.Dotenv
