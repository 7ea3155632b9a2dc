/-!
# Civil dates

Days and seconds since the start of the year 1970, as dates and times of the
Gregorian calendar.
-/

namespace FeatureGrant.Number

/-- A date of the Gregorian calendar. -/
structure CivilDate where
  year : Int
  month : Nat
  day : Nat
  deriving DecidableEq, Repr

/-- A date with a time of day. -/
structure CivilTime where
  date : CivilDate
  hour : Nat
  minute : Nat
  second : Nat
  microsecond : Nat
  deriving DecidableEq, Repr

/-- Whether a year has a leap day. -/
def isLeapYear (year : Int) : Bool :=
  year % 4 == 0 && (year % 100 != 0 || year % 400 == 0)

/-- The number of days in a month. -/
def daysInMonth (year : Int) (month : Nat) : Nat :=
  if month == 2 then (if isLeapYear year then 29 else 28)
  else if month == 4 || month == 6 || month == 9 || month == 11 then 30
  else 31

/-- The date `days` days after the first of January 1970. Years are counted
from the first of March, so that a leap day ends one. -/
def CivilDate.ofDays (days : Int) : CivilDate :=
  let shifted := days + 719468
  let era := shifted / 146097
  let dayOfEra := (shifted % 146097).toNat
  let yearOfEra :=
    (dayOfEra - dayOfEra / 1460 + dayOfEra / 36524 - dayOfEra / 146096) / 365
  let dayOfYear := dayOfEra - (365 * yearOfEra + yearOfEra / 4 - yearOfEra / 100)
  let monthFromMarch := (5 * dayOfYear + 2) / 153
  let day := dayOfYear - (153 * monthFromMarch + 2) / 5 + 1
  let month := if monthFromMarch < 10 then monthFromMarch + 3 else monthFromMarch - 9
  let year := era * 400 + yearOfEra + (if month ≤ 2 then 1 else 0)
  { year, month, day }

/-- The days from the first of January 1970 to a date. -/
def CivilDate.toDays (d : CivilDate) : Int :=
  let year := if d.month ≤ 2 then d.year - 1 else d.year
  let era := year / 400
  let yearOfEra := (year % 400).toNat
  let monthFromMarch := if d.month ≤ 2 then d.month + 9 else d.month - 3
  let dayOfYear := (153 * monthFromMarch + 2) / 5 + d.day - 1
  let dayOfEra := 365 * yearOfEra + yearOfEra / 4 - yearOfEra / 100 + dayOfYear
  era * 146097 + dayOfEra - 719468

/-- The time `seconds` seconds after the start of the year 1970. -/
def CivilTime.ofSeconds (seconds : Int) : CivilTime :=
  let ofDay := (seconds % 86400).toNat
  { date := CivilDate.ofDays (seconds / 86400)
    hour := ofDay / 3600
    minute := ofDay / 60 % 60
    second := ofDay % 60
    microsecond := 0 }

/-- The seconds from the start of the year 1970 to a time. -/
def CivilTime.toSeconds (t : CivilTime) : Int :=
  t.date.toDays * 86400 + (t.hour * 3600 + t.minute * 60 + t.second : Nat)

/-- The fields of a date, separated by commas. -/
def CivilDate.fields (d : CivilDate) : String :=
  toString d.year ++ ", " ++ toString d.month ++ ", " ++ toString d.day

/-- The fields of a time, separated by commas. Seconds and microseconds are
left out if they and all after them are zero. -/
def CivilTime.fields (t : CivilTime) : String :=
  let short := t.date.fields ++ ", " ++ toString t.hour ++ ", " ++ toString t.minute
  if t.microsecond != 0 then
    short ++ ", " ++ toString t.second ++ ", " ++ toString t.microsecond
  else if t.second != 0 then short ++ ", " ++ toString t.second
  else short

/-- A date as it is shown in messages. -/
def CivilDate.text (d : CivilDate) : String := "datetime.date(" ++ d.fields ++ ")"

/-- A time as it is shown in messages. -/
def CivilTime.text (t : CivilTime) : String := "datetime.datetime(" ++ t.fields ++ ")"

end FeatureGrant.Number
