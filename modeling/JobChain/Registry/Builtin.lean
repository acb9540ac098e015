import JobChain.Condition.Reader
import JobChain.Registry.Basic
import JobChain.Run.Outcome

/-!
# The handlers of the kinds with a meaning

Each of the three handlers wraps an effect that the host supplies: a text is delivered, a delay is
waited for, a condition is tested.  A handler without its effect fails.

* `textHandler`, `delayHandler`, `conditionHandler`: the handlers.
* `sleepDelay`: the usual effect of a delay.
* `Registry.withBuiltins`: a registry with the three.
-/

namespace JobChain

variable {σ : Type}

/-- What a handler does with a node, for a job. -/
abbrev Action (σ : Type) := Job → Runner σ

/-- A delivery of a text for a job. -/
abbrev TextEffect (σ : Type) := Job → String → σ → Reply σ × σ

/-- A wait of some seconds. -/
abbrev DelayEffect (σ : Type) := Int → σ → Reply σ × σ

/-- A test of a condition for a job.  A value that counts as nothing means that it does not hold. -/
abbrev ConditionEffect (σ : Type) := String → Job → Act Failure σ Json

/-- What an effect came to, whose value does not matter. -/
def Outcome.ignoringValue : Outcome → Outcome
  | failure f => failure f
  | _ => verdict {}

/-- The outcome of an effect whose value does not matter, and the state then. -/
def settleIgnoring (effect : σ → Reply σ × σ) (s : σ) : Outcome × σ :=
  let (reply, s) := effect s
  let (outcome, s) := reply.settle s
  (outcome.ignoringValue, s)

/-- Work that fails for want of something or for a fault of the node. -/
def failing (reason : String) (s : σ) : Outcome × σ := (.failure (.of .execution reason), s)

/-! ## Texts -/

/-- Delivers the text of a node. -/
def deliver (effect : Option (TextEffect σ)) (j : Job) (n : Node) : σ → Outcome × σ :=
  match effect with
  | none => failing "cron text node executor is unavailable"
  | some effect =>
    let text := Text.trim n.text
    if text = "" then failing "workflow text_event requires non-empty text"
    else settleIgnoring (effect j text)

/-- The handler of nodes that deliver a text. -/
def textHandler (effect : Option (TextEffect σ)) : Handler (Action σ) where
  type? := some (.string textEventType)
  action j n s := (.later (deliver effect j n), s)

/-! ## Delays -/

/-- Waits, unless there is nothing to wait for. -/
def sleepDelay (sleep : Int → Act Failure σ Unit) (seconds : Int) : Act Failure σ Unit :=
  if seconds < 0 then
    Act.fail (.of .execution "workflow delay_seconds must be greater than or equal to 0")
  else if seconds = 0 then pure ()
  else sleep seconds

/-- A wait as an effect. -/
def sleepEffect (sleep : Int → Act Failure σ Unit) : DelayEffect σ := fun seconds s =>
  (.act (sleepDelay sleep seconds), s)

/-- Waits for as long as a node says. -/
def delayBy (effect : Option (DelayEffect σ)) (n : Node) : σ → Outcome × σ :=
  match effect with
  | none => failing "cron delay node executor is unavailable"
  | some effect => settleIgnoring (effect n.delaySeconds)

/-- The handler of nodes that wait. -/
def delayHandler (effect : Option (DelayEffect σ)) : Handler (Action σ) where
  type? := some (.string delayType)
  action _ n s := (.later (delayBy effect n), s)

/-! ## Conditions -/

/-- The usual test of a condition. -/
def evaluateEffect : ConditionEffect σ := fun raw j =>
  Act.ofExcept (((Condition.evaluate raw j).map Json.bool).mapError ConditionError.toFailure)

/-- Tests the condition of a node.  The chain stops where it does not hold. -/
def testCondition (effect : Option (ConditionEffect σ)) (j : Job) (n : Node) (s : σ) :
    Outcome × σ :=
  match effect with
  | none => failing "cron if node evaluator is unavailable" s
  | some effect =>
    match effect n.ifCondition j s with
    | (.ok value, s) => (.verdict { stop := value.isEmpty }, s)
    | (.error f, s) => (.failure f, s)

/-- The handler of nodes that test a condition. -/
def conditionHandler (effect : Option (ConditionEffect σ)) : Handler (Action σ) where
  type? := some (.string ifEventType)
  action j n s := (.later (testCondition effect j n), s)

/-! ## All three -/

/-- A registry with the three handlers, conditions being tested in the usual way. -/
def Registry.withBuiltins (r : Registry (Action σ)) (text : Option (TextEffect σ))
    (delay : Option (DelayEffect σ)) : Registry (Action σ) :=
  ((r.register (some (textHandler text))).register (some (delayHandler delay))).register
    (some (conditionHandler (some evaluateEffect)))

end JobChain
