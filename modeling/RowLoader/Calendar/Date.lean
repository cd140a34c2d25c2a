import RowLoader.Text.Digit
import RowLoader.Text.Quoted

/-!
Dates of the Gregorian calendar, the years 1 to 9999, with the day number that counts from the first
day of year 1 and the weeks that start on Monday, the first week holding the first Thursday of its
year.
-/

namespace RowLoader.Calendar

open RowLoader.Text

/-- A day of the calendar; a valid one has fields in range. -/
structure Date where
  year : Nat
  month : Nat
  day : Nat
deriving Repr, DecidableEq

/-- Why a text or a set of fields is no date or time. An offset is given in microseconds. -/
inductive Fault where
  | malformed (text : String)
  | yearRange (year : Nat)
  | monthRange
  | dayRange
  | hourRange
  | minuteRange
  | secondRange
  | offsetRange (offset : Int)
deriving Repr, DecidableEq

def isLeap (year : Nat) : Bool :=
  year % 4 == 0 && (year % 100 != 0 || year % 400 == 0)

def monthLength (year month : Nat) : Nat :=
  if month = 2 then (if isLeap year then 29 else 28)
  else if month = 4 ∨ month = 6 ∨ month = 9 ∨ month = 11 then 30
  else 31

def Date.Valid (d : Date) : Prop :=
  1 ≤ d.year ∧ d.year ≤ 9999 ∧ 1 ≤ d.month ∧ d.month ≤ 12 ∧ 1 ≤ d.day
    ∧ d.day ≤ monthLength d.year d.month

instance (d : Date) : Decidable d.Valid :=
  inferInstanceAs (Decidable (_ ∧ _))

/-- A date from its fields; of several fields out of range the largest unit is named. -/
def Date.ofFields (year month day : Nat) : Except Fault Date :=
  if year < 1 ∨ 9999 < year then .error (.yearRange year)
  else if month < 1 ∨ 12 < month then .error .monthRange
  else if day < 1 ∨ monthLength year month < day then .error .dayRange
  else .ok ⟨year, month, day⟩

def daysBeforeYear (year : Int) : Int :=
  let y := year - 1
  y * 365 + y / 4 - y / 100 + y / 400

def daysBeforeMonth (year : Nat) : Nat → Nat
  | 0 => 0
  | 1 => 0
  | month + 2 => daysBeforeMonth year (month + 1) + monthLength year (month + 1)

/-- The day number of the first of January, counted from 1 on the first day of year 1. -/
def firstDayOf (year : Nat) : Int :=
  daysBeforeYear year + 1

/-- The month and day of the n-th day of a year, counted from 0. -/
def monthDay (year : Nat) : Nat → Nat → Nat → Nat × Nat
  | 0, month, n => (month, n + 1)
  | fuel + 1, month, n =>
    if n < monthLength year month then (month, n + 1)
    else monthDay year fuel (month + 1) (n - monthLength year month)

/-- The year, month and day of a positive day number. -/
def fieldsOfDayNumber (n : Nat) : Nat × Nat × Nat :=
  let d := n - 1
  let n400 := d / 146097
  let d := d % 146097
  let n100 := d / 36524
  let d' := d % 36524
  let n4 := d' / 1461
  let d'' := d' % 1461
  let n1 := d'' / 365
  if n100 = 4 ∨ n1 = 4 then (400 * n400 + 100 * n100 + 4 * n4 + n1, 12, 31)
  else
    let year := 400 * n400 + 100 * n100 + 4 * n4 + n1 + 1
    (year, monthDay year 11 1 (d'' % 365))

/-- The weekday of the first of January, 0 for Monday. -/
def firstWeekday (year : Nat) : Nat :=
  ((firstDayOf year + 6) % 7).toNat

def firstMonday (year : Nat) : Int :=
  let w := firstWeekday year
  firstDayOf year - w + (if 3 < w then 7 else 0)

/-- A year has a week 53 when it starts on a Thursday, or on a Wednesday and is a leap year. -/
def hasWeek53 (year : Nat) : Bool :=
  firstWeekday year == 3 || (firstWeekday year == 2 && isLeap year)

/-- The fields of a day given by year, week and weekday, 1 for Monday. A day before year 1 gets a
month that no date has. -/
def fieldsOfWeek? (year week weekday : Nat) : Option (Nat × Nat × Nat) :=
  if week < 1 ∨ 53 < week ∨ (week = 53 ∧ !hasWeek53 year) then none
  else if weekday < 1 ∨ 7 < weekday then none
  else
    let n := firstMonday year + ((week - 1) * 7 + (weekday - 1) : Nat)
    if n < 1 then some (1, 0, 1) else some (fieldsOfDayNumber n.toNat)

def Date.write (d : Date) : List Char :=
  padded 4 d.year ++ '-' :: padded 2 d.month ++ '-' :: padded 2 d.day

def Date.text (d : Date) : String :=
  String.ofList d.write

end RowLoader.Calendar
