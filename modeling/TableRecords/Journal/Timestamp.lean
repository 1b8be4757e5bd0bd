import TableRecords.Number.Rounded
import TableRecords.Value.Key

/-! # Dates and times

Seconds since the start of 1970 as a date and time of the Gregorian calendar.
-/

namespace TableRecords

/-- Days since 1970 as year, month and day. Years are counted from March, so that the day a leap
year adds is the last one; four hundred years have 146097 days. -/
def civilDate (days : Int) : Int × Int × Int :=
  let shifted := days + 719468
  let era := shifted / 146097
  let day := shifted % 146097
  let year := (day - day / 1460 + day / 36524 - day / 146096) / 365
  let dayOfYear := day - (365 * year + year / 4 - year / 100)
  let month := (5 * dayOfYear + 2) / 153
  let dayOfMonth := dayOfYear - (153 * month + 2) / 5 + 1
  let civilMonth := if month < 10 then month + 3 else month - 9
  (year + era * 400 + (if civilMonth ≤ 2 then 1 else 0), civilMonth, dayOfMonth)

def twoDigits (n : Int) : String := String.ofList (Magnitude.paddedDigits 2 n.toNat)

def timestamp (seconds : Int) : String :=
  let (year, month, day) := civilDate (seconds / 86400)
  let second := seconds % 86400
  toString year ++ "-" ++ twoDigits month ++ "-" ++ twoDigits day ++ " " ++
    twoDigits (second / 3600) ++ ":" ++ twoDigits (second / 60 % 60) ++ ":" ++
    twoDigits (second % 60)

/-- The first second whose year can be written: its distance from 1900 has 32 bits with sign. -/
def firstSecond : Int := -67768040609740800

/-- The last second whose year can be written: the year has 32 bits with sign. -/
def lastSecond : Int := 67767976233532799

def wholeSeconds? : Value → Option Int
  | .int n => some n
  | .bool b => some b.toNat
  | .real (.finite negative x) => some (signedNat negative x.units / (Magnitude.one : Int))
  | _ => none

def timestamp? (v : Value) : Option String := do
  let seconds ← wholeSeconds? v
  if firstSecond ≤ seconds ∧ seconds ≤ lastSecond then pure (timestamp seconds) else none

end TableRecords
