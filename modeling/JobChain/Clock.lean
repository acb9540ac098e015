/-!
# Times and run ids

A time is a count of seconds since the beginning of 1970 and is written as a date and a time of day
in the proleptic Gregorian calendar, if it falls in the years 1 to 9999.  A run id names the process
that made it and ends with a token.

* `civilDate`: the date of a day.
* `timeText`: the text of a time, or why it has none.
* `runIdText`: the text of a run id.
-/

namespace JobChain.Clock

/-- A date of the calendar. -/
structure Date where
  year : Int
  month : Nat
  day : Nat
deriving DecidableEq, Repr

/-- The year of an era of 400 years, counted from March, to which a day of the era belongs. -/
def yearOfEra (day : Nat) : Nat := (day - day / 1460 + day / 36524 - day / 146096) / 365

/-- The date of a day, counted from the first of 1970.  Years are counted from March on, so that the
day that some years have more is their last one, and eras of 400 years are all alike. -/
def civilDate (days : Int) : Date :=
  let shifted := days + 719468
  let era := Int.fdiv shifted 146097
  let dayOfEra := (Int.fmod shifted 146097).toNat
  let yoe := yearOfEra dayOfEra
  let dayOfYear := dayOfEra - (365 * yoe + yoe / 4 - yoe / 100)
  let monthFromMarch := (5 * dayOfYear + 2) / 153
  let month := if monthFromMarch < 10 then monthFromMarch + 3 else monthFromMarch - 9
  { year := Int.ofNat yoe + era * 400 + if month ≤ 2 then 1 else 0
    month
    day := dayOfYear - (153 * monthFromMarch + 2) / 5 + 1 }

/-- Why a time has no text. -/
inductive TimeError where
  | yearOutOfRange (year : Int)
deriving DecidableEq, Repr

/-- The reason in words. -/
def TimeError.message : TimeError → String
  | yearOutOfRange year => "year " ++ toString year ++ " is out of range"

/-- A number in two digits at least. -/
def twoDigits (n : Nat) : String := if n < 10 then "0" ++ toString n else toString n

/-- The text of a time of day, to the second. -/
def timeOfDayText (seconds : Nat) : String :=
  twoDigits (seconds / 3600) ++ ":" ++ twoDigits (seconds / 60 % 60) ++ ":" ++
    twoDigits (seconds % 60)

/-- The text of a date. -/
def Date.text (d : Date) : String :=
  toString d.year ++ "-" ++ twoDigits d.month ++ "-" ++ twoDigits d.day

/-- The text of a time: date and time of day. -/
def timeText (seconds : Int) : Except TimeError String :=
  let date := civilDate (Int.fdiv seconds 86400)
  if 1 ≤ date.year ∧ date.year ≤ 9999 then
    .ok (date.text ++ "T" ++ timeOfDayText (Int.fmod seconds 86400).toNat ++ "Z")
  else .error (.yearOutOfRange date.year)

/-- What a run id begins with, unless it is configured otherwise. -/
def usualIdPrefix : String := "run"

/-- The text of a run id. -/
def runIdText (idPrefix : String) (process : Int) (token : String) : String :=
  idPrefix ++ "-" ++ toString process ++ "-" ++ token

end JobChain.Clock
