import RowLoader.Calendar.Date

/-!
Points in time: a date, a time of day to the microsecond, and possibly the offset of a clock from
universal time.
-/

namespace RowLoader.Calendar

open RowLoader.Text

/-- A date with a time of day. The offset is in microseconds; without one the time is local. -/
structure Timestamp where
  date : Date
  hour : Nat
  minute : Nat
  second : Nat
  microsecond : Nat
  offset : Option Int
deriving Repr, DecidableEq

def dayLength : Int := 86400000000

/-- The fields name a point in time; an offset is shorter than a day. -/
def Timestamp.Valid (t : Timestamp) : Prop :=
  t.date.Valid ∧ t.hour < 24 ∧ t.minute < 60 ∧ t.second < 60 ∧ t.microsecond < 1000000
    ∧ ∀ o ∈ t.offset, -dayLength < o ∧ o < dayLength

def Date.midnight (d : Date) : Timestamp :=
  ⟨d, 0, 0, 0, 0, none⟩

/-- A time of day: hour, minute, second, and microseconds in six digits unless they are zero. -/
def writeClock (hour minute second microsecond : Nat) : List Char :=
  padded 2 hour ++ ':' :: padded 2 minute ++ ':' :: padded 2 second
    ++ (if microsecond = 0 then [] else '.' :: padded 6 microsecond)

/-- An offset: a sign, hours and minutes, and the smaller units as far as they are not zero. -/
def writeOffset (offset : Int) : List Char :=
  let n := offset.natAbs
  let seconds := n / 1000000
  let clock := padded 2 (seconds / 3600) ++ ':' :: padded 2 (seconds / 60 % 60)
  let small :=
    if n % 1000000 ≠ 0 then ':' :: padded 2 (seconds % 60) ++ '.' :: padded 6 (n % 1000000)
    else if seconds % 60 ≠ 0 then ':' :: padded 2 (seconds % 60)
    else []
  (if offset < 0 then '-' else '+') :: clock ++ small

def Timestamp.write (separator : Char) (t : Timestamp) : List Char :=
  t.date.write ++ separator :: writeClock t.hour t.minute t.second t.microsecond
    ++ (match t.offset with
      | none => []
      | some offset => writeOffset offset)

def Timestamp.text (separator : Char) (t : Timestamp) : String :=
  String.ofList (t.write separator)

/-- The form in which a store keeps a point in time: a space, always six digits of a second, and no
offset. -/
def Timestamp.columnText (t : Timestamp) : String :=
  String.ofList (t.date.write ++ ' ' :: padded 2 t.hour ++ ':' :: padded 2 t.minute
    ++ ':' :: padded 2 t.second ++ '.' :: padded 6 t.microsecond)

def Timestamp.clockText (t : Timestamp) : String :=
  String.ofList (writeClock t.hour t.minute t.second 0)

def durationText (length : Int) : String :=
  let days := length / dayLength
  let rest := length % dayLength
  let unit (name : String) (n : Int) : List String := if n = 0 then [] else [s!"{name}={n}"]
  let parts := unit "days" days ++ unit "seconds" (rest / 1000000)
    ++ unit "microseconds" (rest % 1000000)
  if parts.isEmpty then "datetime.timedelta(0)"
  else "datetime.timedelta(" ++ ", ".intercalate parts ++ ")"

def Fault.message : Fault → String
  | .malformed text => s!"Invalid isoformat string: {quoted text}"
  | .yearRange year => s!"year {year} is out of range"
  | .monthRange => "month must be in 1..12"
  | .dayRange => "day is out of range for month"
  | .hourRange => "hour must be in 0..23"
  | .minuteRange => "minute must be in 0..59"
  | .secondRange => "second must be in 0..59"
  | .offsetRange offset =>
    "offset must be a timedelta strictly between -timedelta(hours=24) and timedelta(hours=24), not "
      ++ durationText offset ++ "."

end RowLoader.Calendar
