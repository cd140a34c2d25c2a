import RowLoader.Calendar.Timestamp
import RowLoader.Text.Utf8

/-!
Reading dates and times. A date is written with month and day or with week and weekday, with or
without hyphens; a time follows after one character of any kind, with or without colons, with a
fraction of a second and an offset. Positions count octets of UTF-8, so the readers work on a text
whose characters are its octets.
-/

namespace RowLoader.Calendar

open RowLoader.Text

/-- A text as its octets, each one a character. -/
def octets (s : List Char) : List Char :=
  (Utf8.encode s).map (fun b => Char.ofNat b.toNat)

def takeNumber (n : Nat) (s : List Char) : Option (Nat × List Char) :=
  let d := s.take n
  if d.length = n ∧ d.all isAsciiDigit then some (natOfDigits d, s.drop n) else none

def expect (required : Bool) (c : Char) (s : List Char) : Option (List Char) :=
  if required then
    match s with
    | [] => none
    | d :: r => if d = c then some r else none
  else some s

def takeHyphen : List Char → Bool × List Char
  | '-' :: r => (true, r)
  | s => (false, s)

/-- Week and weekday after the letter W; without a weekday the week's Monday is meant. -/
def readWeek? (year : Nat) (hyphens : Bool) (s : List Char) : Option (Nat × Nat × Nat) := do
  let (week, rest) ← takeNumber 2 s
  if rest.isEmpty then fieldsOfWeek? year week 1
  else
    let (weekday, _) ← takeNumber 1 (← expect hyphens '-' rest)
    fieldsOfWeek? year week weekday

def readMonthDay? (year : Nat) (hyphens : Bool) (s : List Char) : Option (Nat × Nat × Nat) := do
  let (month, rest) ← takeNumber 2 s
  let (day, _) ← takeNumber 2 (← expect hyphens '-' rest)
  some (year, month, day)

/-- Year, month and day of a date part, not yet checked; what follows a complete date is ignored. -/
def readDatePart? (s : List Char) : Option (Nat × Nat × Nat) := do
  let (year, rest) ← takeNumber 4 s
  let (hyphens, rest) := takeHyphen rest
  match rest with
  | 'W' :: r => readWeek? year hyphens r
  | r => readMonthDay? year hyphens r

def standsAt (s : List Char) (i : Nat) (p : Char → Bool) : Bool :=
  match s[i]? with
  | some c => p c
  | none => false

/-- Where the date part of a date with time ends. A week that is followed by a hyphen has a weekday
unless two digits follow; in a run of digits after a week the number of digits decides. -/
def datePartLength (s : List Char) : Nat :=
  if s.length = 7 then 7
  else if standsAt s 4 (· = '-') then
    if standsAt s 5 (· = 'W') then
      if standsAt s 8 (· = '-') && !standsAt s 10 isAsciiDigit then 10 else 8
    else 10
  else if standsAt s 4 (· = 'W') then
    let p := 7 + ((s.drop 7).takeWhile isAsciiDigit).length
    if p < 9 then p else if p % 2 = 0 then 7 else 8
  else 8

def octetCount (c : Char) : Nat :=
  let n := c.toNat
  if n < 0x80 then 1 else if n / 16 = 0xE then 3 else if n / 16 = 0xF then 4 else 2

/-- Drop one character, octet by octet. -/
def dropCharacter : List Char → List Char
  | [] => []
  | c :: r => (c :: r).drop (octetCount c)

structure Clock where
  hour : Nat
  minute : Nat
  second : Nat
  microsecond : Nat
deriving Repr, DecidableEq

/-- Something is left over: a character other than NUL. -/
def leftover : List Char → Bool
  | [] => false
  | c :: _ => c.toNat != 0

/-- A fraction of a second in microseconds: six digits count, shorter ones are filled up, further
ones are passed over. The flag says whether something is left over. -/
def readFraction? (s : List Char) : Option (Nat × Bool) := do
  let n := min s.length 6
  let (value, rest) ← takeNumber n s
  some (value * Nat.pow 10 (6 - n), leftover (rest.dropWhile isAsciiDigit))

/-- What follows two digits of a clock. -/
inductive Continuation where
  | done (leftover : Bool)
  | fraction (rest : List Char)
  | field (rest : List Char)
  | bad

/-- How a clock goes on. A last character alone is left over; with colons the next field needs one,
without colons it follows directly; a point or comma starts the fraction. -/
def continuation (colons : Bool) : List Char → Continuation
  | [] => .done false
  | [c] => .done (leftover [c])
  | c :: d :: r =>
    if colons ∧ c = ':' then .field (d :: r)
    else if c = '.' ∨ c = ',' then .fraction (d :: r)
    else if !colons then .field (c :: d :: r)
    else .bad

/-- Colons are used when one follows the hour. -/
def usesColons : List Char → Bool
  | ':' :: _ => true
  | _ => false

/-- The fields after some that are known: the remaining ones of minute and second, then the fraction,
which starts without a point when nothing else is left to read. -/
def readFields? (colons : Bool) : Nat → List Nat → List Char → Option (List Nat × Nat × Bool)
  | 0, known, s => do
    let (value, more) ← readFraction? s
    some (known, value, more)
  | k + 1, known, s => do
    let (n, rest) ← takeNumber 2 s
    match continuation colons rest with
    | .done more => some (known ++ [n], 0, more)
    | .fraction r =>
      let (value, more) ← readFraction? r
      some (known ++ [n], value, more)
    | .field r => readFields? colons k (known ++ [n]) r
    | .bad => none

/-- A time of day, not yet checked, and whether something is left over after it. -/
def readClock? (s : List Char) : Option (Clock × Bool) := do
  let (fields, microsecond, more) ← readFields? (usesColons (s.drop 2)) 3 [] s
  some (⟨fields.getD 0 0, fields.getD 1 0, fields.getD 2 0, microsecond⟩, more)

/-- The offset of a clock. One without whole seconds is universal time, whatever its fraction. -/
def offsetOf (negative : Bool) (c : Clock) : Int :=
  let seconds := c.hour * 3600 + c.minute * 60 + c.second
  if seconds = 0 then 0
  else if negative then -((seconds * 1000000 + c.microsecond : Nat) : Int)
  else (seconds * 1000000 + c.microsecond : Nat)

def readOffset? : List Char → Option Int
  | 'Z' :: r => if leftover r then none else some 0
  | c :: r => do
    let (clock, more) ← readClock? r
    if more then none else some (offsetOf (c == '-') clock)
  | [] => none

def opensOffset (c : Char) : Bool :=
  c == '+' || c == '-' || c == 'Z'

/-- A time of day with or without offset. Something left over is an error only where no offset
follows. -/
def readTimePart? (s : List Char) : Option (Clock × Option Int) := do
  let (clock, more) ← readClock? (s.takeWhile (fun c => !opensOffset c))
  match s.dropWhile (fun c => !opensOffset c) with
  | [] => if more then none else some (clock, none)
  | r => some (clock, some (← readOffset? r))

/-- The time after a date part: midnight where nothing follows, else what comes after one character. -/
def readRest? (s : List Char) : Option (Clock × Option Int) :=
  if s.isEmpty then some (⟨0, 0, 0, 0⟩, none) else readTimePart? (dropCharacter s)

/-- The raw fields of a date with time, which takes seven octets at least. -/
def readParts? (s : List Char) : Option ((Nat × Nat × Nat) × Clock × Option Int) :=
  if s.length < 7 then none
  else do
    let date ← readDatePart? (s.take (datePartLength s))
    let (clock, offset) ← readRest? (s.drop (datePartLength s))
    some (date, clock, offset)

/-- An offset of a day or more is refused before anything else. -/
def checkOffset (offset : Option Int) : Except Fault Unit :=
  match offset with
  | none => .ok ()
  | some o => if -dayLength < o ∧ o < dayLength then .ok () else .error (.offsetRange o)

/-- A time of day is checked from the largest unit on. -/
def Clock.check (c : Clock) : Except Fault Unit :=
  if 23 < c.hour then .error .hourRange
  else if 59 < c.minute then .error .minuteRange
  else if 59 < c.second then .error .secondRange
  else .ok ()

/-- A point in time from raw fields: the offset is checked first, then the date, then the clock. -/
def Timestamp.ofParts (date : Nat × Nat × Nat) (clock : Clock) (offset : Option Int) :
    Except Fault Timestamp := do
  checkOffset offset
  let d ← Date.ofFields date.1 date.2.1 date.2.2
  clock.check
  return ⟨d, clock.hour, clock.minute, clock.second, clock.microsecond, offset⟩

def Date.read (s : List Char) : Except Fault Date :=
  let o := octets s
  match if o.length = 10 then readDatePart? o else none with
  | none => .error (.malformed (String.ofList s))
  | some (year, month, day) => Date.ofFields year month day

def Timestamp.read (s : List Char) : Except Fault Timestamp :=
  match readParts? (octets s) with
  | none => .error (.malformed (String.ofList s))
  | some (date, clock, offset) => Timestamp.ofParts date clock offset

end RowLoader.Calendar
