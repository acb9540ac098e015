import JobChain.Condition.Basic

/-!
# Writing conditions

There is no escape inside a literal, so a value is put between double marks if it holds none, else
between single marks if it holds none of those, and else stands bare.

* `literalOf`: the literal of a value.
* `Condition.write`: a condition with single spaces between its parts.
-/

namespace JobChain

/-- The literal of a value. -/
def literalOf (value : List Char) : List Char :=
  if !value.contains '"' then '"' :: value ++ ['"']
  else if !value.contains '\'' then '\'' :: value ++ ['\'']
  else value

/-- The text of a condition. -/
def Condition.write (c : Condition) : String :=
  c.aspect.name ++ " " ++ c.comparison.sign ++ " " ++ String.ofList (literalOf c.value.toList)

end JobChain
