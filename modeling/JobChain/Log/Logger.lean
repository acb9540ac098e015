import JobChain.Log.Severity

/-!
# Loggers

A logger that is opened gets one handler, on the error stream and at the logger's own level, and
passes nothing on.  A name opens one logger only: opened again, it stays as it was first.

* `Loggers.obtain`: the logger of a name.
-/

namespace JobChain.Log

/-- The streams that handlers write to. -/
inductive Stream where
  | error
deriving DecidableEq, Repr

/-- The name of a stream. -/
def Stream.name : Stream → String
  | error => "stderr"

/-- What shows lines: where it writes, from which level on, and the layouts of a line and of the
time in it. -/
structure Handler where
  level : Int
  stream : Stream := .error
  layout : String := "%(asctime)s | %(name)s | %(levelname)s | %(message)s"
  timeLayout : String := "%Y-%m-%d %H:%M:%S"
deriving DecidableEq, Repr

/-- A logger. -/
structure Logger where
  level : Int
  handlers : List Handler
  propagates : Bool
deriving DecidableEq, Repr

/-- The logger of a level. -/
def Logger.ofLevel (level : Int) : Logger :=
  { level, handlers := [{ level }], propagates := false }

/-- The loggers that have been opened, by name. -/
abbrev Loggers := Table Logger

/-- The logger of a name, and the loggers then.  The setting counts only for a new name. -/
def Loggers.obtain (loggers : Loggers) (configured name : String) (setting : Json) :
    Logger × Loggers :=
  match loggers.get? name with
  | some logger => (logger, loggers)
  | none =>
    let logger := Logger.ofLevel (levelOf configured setting)
    (logger, loggers.put name logger)

end JobChain.Log
