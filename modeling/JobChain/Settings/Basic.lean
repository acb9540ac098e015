import JobChain.Schema.Record
import JobChain.Schema.Scalar
import JobChain.Settings.Dotenv
import JobChain.Text.Lowercase

/-!
# Settings

The settings of the command line come from variables: from those of the environment and, where the
environment has none, from those of a file.  Names of variables are compared in lower case.

* `Settings.read`: the settings of an environment and a file.
-/

namespace JobChain

open Schema (Checked field readText readInteger)
open Schema.Checked (take)

/-- The settings. -/
structure Settings where
  logLevel : String := "INFO"
  defaultChannel : String := "console"
  idPrefix : String := "run"
  maxDelay : Option Nat := none
deriving DecidableEq, Repr

namespace Settings

/-- The names of the settings. -/
def names : List String :=
  ["log_level", "default_dispatch_channel", "run_id_prefix", "max_delay_seconds"]

/-- The name of the record of settings. -/
def recordName : String := "CronWorkflowConfig"

/-- An integer that is not negative. -/
def readNatural (value : Json) : Checked Nat :=
  match readInteger value with
  | .ok n => if 0 ≤ n then .ok n.toNat else .fault .negative
  | .error issues => .error issues

/-- Settings from the members of an object. -/
def ofMembers (ms : Table Json) : Checked Settings :=
  (Except.ok Settings.mk : Checked _)
    |> take (field ms "log_level" readText "INFO")
    |> take (field ms "default_dispatch_channel" readText "console")
    |> take (field ms "run_id_prefix" readText "run")
    |> take (field ms "max_delay_seconds" (fun v => (readNatural v).map some) none)

/-- Variables by their names in lower case, the last of a name winning. -/
def byLowerName {α : Type} (vars : Table α) : Table α :=
  Table.ofEntries (vars.map fun e => (Text.lower e.1, e.2))

/-- The settings of an environment and a file, if there is one. -/
def read (environment : Table String) (file : Option String) : Checked Settings :=
  let outer := byLowerName environment
  let inner := byLowerName ((file.map (Dotenv.read environment)).getD [])
  let value? (name : String) : Option String := (outer.get? name).or (inner.get? name).join
  ofMembers (names.filterMap fun name => (value? name).map fun v => (name, .string v))

/-- Whether delays are cut. -/
def cutsDelays (s : Settings) : Bool := s.maxDelay.isSome

/-- The wait for a delay of some seconds. -/
def cutDelay (s : Settings) (seconds : Int) : Int :=
  match s.maxDelay with
  | some most => min seconds most
  | none => seconds

/-- A delay that is cut is not negative if it was not. -/
theorem cutDelay_nonneg (s : Settings) {seconds : Int} (h : 0 ≤ seconds) :
    0 ≤ s.cutDelay seconds := by
  unfold cutDelay
  split <;> omega

/-- The settings by name, in words; a setting may have no value. -/
def values (s : Settings) : Table (Option String) :=
  [("log_level", some s.logLevel), ("default_dispatch_channel", some s.defaultChannel),
    ("run_id_prefix", some s.idPrefix), ("max_delay_seconds", s.maxDelay.map toString)]

end Settings

end JobChain
