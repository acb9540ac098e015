import JobChain.Command.Console

/-!
# Layout

What a console shows, in lines.  The cells of a table stand in columns that are as wide as their
widest cell, with two blanks between them.

* `Printed.lines`: the lines of something on a console.
-/

namespace JobChain.Command

/-- A text filled up with blanks to a width. -/
def padded (width : Nat) (s : String) : String :=
  s ++ String.ofList (List.replicate (width - s.length) ' ')

/-- The widths of columns after one more row. -/
def widen : List Nat → List String → List Nat
  | width :: widths, cell :: cells => max width cell.length :: widen widths cells
  | [], cells => cells.map String.length
  | widths, [] => widths

/-- A row in columns of some widths. -/
def rowLine (widths : List Nat) (cells : List String) : String :=
  "  ".intercalate (List.zipWith padded widths cells)

/-- The lines of something on a console. -/
def Printed.lines : Printed → List String
  | line text => [text]
  | panel text => [text, String.ofList (List.replicate text.length '=')]
  | table title columns rows =>
    let widths := (columns :: rows).foldl widen []
    title.toList ++ (columns :: rows).map (rowLine widths)

@[simp] theorem Printed.lines_line (text : String) : (line text).lines = [text] := rfl

end JobChain.Command
