import JobChain.Binary64.Basic

/-!
# Workflows

A workflow is a drawn graph: nodes with a type and the fields that some types use, edges from node
to node, and the place and scale at which an editor shows the drawing.  All texts are as they were
written; `JobChain.Plan` compiles a workflow into a plan.
-/

namespace JobChain

/-- The place and scale of a drawing. -/
structure Viewport where
  panX : Binary64 := .zero
  panY : Binary64 := .zero
  zoom : Binary64 := .zero
deriving DecidableEq, Repr

/-- A node of a workflow. -/
structure Node where
  id : String := ""
  type : String := ""
  title : String := ""
  x : Binary64 := .zero
  y : Binary64 := .zero
  text : String := ""
  delaySeconds : Int := 0
  ifCondition : String := ""
  continueOnError : Bool := false
deriving DecidableEq, Repr

/-- An edge of a workflow. -/
structure Edge where
  id : String := ""
  source : String := ""
  target : String := ""
deriving DecidableEq, Repr

/-- A workflow as it was drawn. -/
structure Workflow where
  version : String := ""
  viewport : Option Viewport := none
  nodes : List Node := []
  edges : List Edge := []
deriving DecidableEq, Repr

end JobChain
