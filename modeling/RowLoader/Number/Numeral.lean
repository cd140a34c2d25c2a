import RowLoader.Text.Blank
import RowLoader.Text.Digit

/-!
Integers as text. The reader takes decimal digits of any script, one underscore between two digits,
a sign, and white space around; a number of more than 4300 digits is refused whatever its value.
-/

namespace RowLoader.Number

open RowLoader.Text

inductive NumeralFault where
  | malformed
  | tooLong (digits : Nat)
deriving Repr, DecidableEq

/-- The most digits an integer may be written with, leading zeros counted. -/
def digitLimit : Nat := 4300

/-- A character outside ASCII, with every white space as a space and every decimal digit as the
ASCII digit of its value. -/
def asciiForm (c : Char) : Char :=
  if c.toNat < 128 then c
  else if isBlank c then ' '
  else match digitValue? c with
    | some d => Char.ofNat (48 + d)
    | none => c

def takeSign : List Char → Bool × List Char
  | '-' :: r => (true, r)
  | '+' :: r => (false, r)
  | s => (false, s)

/-- The digit values of a nonempty run of ASCII digits with single underscores between them. -/
def groupedDigits? : List Char → Option (List Nat)
  | [] => none
  | c :: r =>
    if isAsciiDigit c then
      match r with
      | [] => some [c.toNat - 48]
      | d :: r' =>
        if d = '_' then (groupedDigits? r').map ((c.toNat - 48) :: ·)
        else (groupedDigits? (d :: r')).map ((c.toNat - 48) :: ·)
    else none

def applySign (negative : Bool) (n : Nat) : Int :=
  if negative then -(n : Int) else n

/-- The number of a list of digit values, unless there are too many of them. -/
def ofDigits (negative : Bool) (digits : List Nat) : Except NumeralFault Int :=
  if digits.length ≤ digitLimit then .ok (applySign negative (numberOf digits))
  else .error (.tooLong digits.length)

def readInt (s : List Char) : Except NumeralFault Int :=
  let (negative, body) := takeSign (trimBy isAsciiBlank (s.map asciiForm))
  match groupedDigits? body with
  | none => .error .malformed
  | some digits => ofDigits negative digits

/-- Write an integer: its digits without leading zeros, after a minus when it is negative. -/
def writeInt (n : Int) : List Char :=
  if n < 0 then '-' :: digitsOf n.natAbs else digitsOf n.natAbs

def intText (n : Int) : String :=
  String.ofList (writeInt n)

end RowLoader.Number
