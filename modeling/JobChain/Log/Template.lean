import JobChain.Log.Argument

/-!
# Templates of log lines

The places of a template take the arguments one after another: a place takes one for its width and
one for its precision if they are not told, and then the one that it writes.  No argument may be
left.  The first fault from the left wins.

* `Place.fill`: a place and the arguments that it takes.
* `fill`: the text of a template and its arguments, or why there is none.
-/

namespace JobChain.Log

/-- The integer that an argument for a width or a precision is, and the arguments after it. -/
def takeExtent : List Json → Except TemplateError (Int × List Json)
  | [] => .error .tooFew
  | .int n :: rest => .ok (n, rest)
  | .bool b :: rest => .ok (if b then 1 else 0, rest)
  | _ => .error .extentWanted

/-- The flags and the width of a place, and the arguments that are left.  A negative width is one on
the left, and the least of all integers of its size is no width. -/
def takeWidth (flags : Flags) (arguments : List Json) :
    Option Extent → Except TemplateError (Flags × Nat × List Json)
  | none => .ok (flags, 0, arguments)
  | some (.told n) => if largestWidth < n then .error .widthTooBig else .ok (flags, n, arguments)
  | some .argument => do
    let (n, rest) ← takeExtent arguments
    if n < -Int.ofNat largestWidth - 1 ∨ Int.ofNat largestWidth < n then
      .error .widthTooLarge
    else if n < 0 then
      .ok ({ flags with left := true }, if largestWidth < n.natAbs then 0 else n.natAbs, rest)
    else .ok (flags, n.toNat, rest)

/-- The precision of a place, and the arguments that are left.  A negative precision is zero. -/
def takePrecision (arguments : List Json) :
    Option Extent → Except TemplateError (Option Nat × List Json)
  | none => .ok (none, arguments)
  | some (.told n) =>
    if largestPrecision < n then .error .precisionTooBig else .ok (some n, arguments)
  | some .argument => do
    let (n, rest) ← takeExtent arguments
    if n < -Int.ofNat largestPrecision - 1 ∨ Int.ofNat largestPrecision < n then
      .error .precisionTooLarge
    else .ok (some n.toNat, rest)

/-- What a place writes, and the arguments that are left. -/
def Place.fill (p : Place) (arguments : List Json) :
    Except TemplateError (List Char × List Json) := do
  let (flags, width, arguments) ← takeWidth p.flags arguments p.width
  let (precision, arguments) ← takePrecision arguments p.precision
  match p.letter, arguments with
  | none, _ => .error .incomplete
  | some _, [] => .error .tooFew
  | some letter, value :: rest => do
    let frame : Frame := { flags with width, precision }
    return (← frame.write letter p.index value, rest)

/-- The text of pieces and the arguments that are left for them. -/
def fillPieces : List Piece → List Json → Except TemplateError (List Char)
  | [], arguments => if arguments.isEmpty then .ok [] else .error .tooMany
  | .text cs :: rest, arguments => (fillPieces rest arguments).map (cs ++ ·)
  | .named :: _, _ => .error .mappingWanted
  | .place p :: rest, arguments => do
    let (written, left) ← p.fill arguments
    return written ++ (← fillPieces rest left)

/-- The text of a template.  Without arguments a template stands for itself. -/
def fill (template : String) (arguments : List Json) : Except TemplateError String :=
  if arguments.isEmpty then .ok template
  else (fillPieces (pieces template.toList) arguments).map String.ofList

@[simp] theorem fill_nil (template : String) : fill template [] = .ok template := rfl

end JobChain.Log
