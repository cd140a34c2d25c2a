import RowLoader.Number.Numeral

/-!
Decimal numbers: a sign, a coefficient and a power of ten, kept apart, so that trailing zeros and the
sign of zero survive; besides them infinities and not-a-numbers. The reader and the printer follow
the scientific string of the General Decimal Arithmetic.
-/

namespace RowLoader.Number

open RowLoader.Text

/-- A decimal number. The number that finite stands for is ± coefficient · 10 ^ exponent. -/
inductive Decimal where
  | finite (negative : Bool) (coefficient : Nat) (exponent : Int)
  | infinite (negative : Bool)
  | nan (negative signaling : Bool) (payload : Nat)
deriving Repr, DecidableEq

namespace Decimal

/-- The largest exponent of the first digit. -/
def maxAdjusted : Int := 999999999999999999

/-- The least exponent of the last digit. -/
def minExponent : Int := -1999999999999999997

/-- The exponent of the first digit; a zero has one digit. -/
def adjusted (coefficient : Nat) (exponent : Int) : Int :=
  exponent + (digitsOf coefficient).length - 1

/-- A finite number is representable when its last digit does not lie too low and its first digit
not too high. -/
def inRange (coefficient : Nat) (exponent : Int) : Bool :=
  minExponent ≤ exponent && adjusted coefficient exponent ≤ maxAdjusted

inductive Fault where
  | malformed
  | outOfRange
deriving Repr, DecidableEq

/-- The characters of a numeral proper: white space around and every underscore dropped, and
characters outside ASCII in their ASCII form. -/
def normalForm (s : List Char) : List Char :=
  ((trimChars s).filter (· != '_')).map asciiForm

/-- The exponent part of a numeral: nothing, or the letter e and a signed run of digits. -/
def readExponent? : List Char → Option Int
  | [] => some 0
  | c :: r =>
    if c = 'e' ∨ c = 'E' then
      let (negative, digits) := takeSign r
      if !digits.isEmpty && digits.all isAsciiDigit then
        some (applySign negative (natOfDigits digits))
      else none
    else none

/-- The digits after a point, and the rest; none of them without a point. -/
def takeFraction : List Char → List Char × List Char
  | '.' :: r => (r.takeWhile isAsciiDigit, r.dropWhile isAsciiDigit)
  | s => ([], s)

def readFinite (negative : Bool) (s : List Char) : Except Fault Decimal :=
  let whole := s.takeWhile isAsciiDigit
  let (fraction, rest) := takeFraction (s.dropWhile isAsciiDigit)
  if whole.isEmpty && fraction.isEmpty then .error .malformed
  else match readExponent? rest with
    | none => .error .malformed
    | some e =>
      let coefficient := natOfDigits (whole ++ fraction)
      let exponent := e - fraction.length
      if inRange coefficient exponent then .ok (.finite negative coefficient exponent)
      else .error .outOfRange

def readNan (negative signaling : Bool) (digits : List Char) : Except Fault Decimal :=
  if digits.all isAsciiDigit then .ok (.nan negative signaling (natOfDigits digits))
  else .error .malformed

/-- Read a decimal without sign: a number, an infinity or a not-a-number, words in any case. -/
def readUnsigned (negative : Bool) (s : List Char) : Except Fault Decimal :=
  let word := s.map Char.toLower
  if word = "inf".toList ∨ word = "infinity".toList then .ok (.infinite negative)
  else if word.take 3 = "nan".toList then readNan negative false (word.drop 3)
  else if word.take 4 = "snan".toList then readNan negative true (word.drop 4)
  else readFinite negative s

def read (s : List Char) : Except Fault Decimal :=
  let (negative, body) := takeSign (normalForm s)
  readUnsigned negative body

def signOf (negative : Bool) : List Char :=
  if negative then ['-'] else []

/-- Digits with a point after the first k of them; zeros fill in where k lies outside. -/
def pointed (digits : List Char) (k : Int) : List Char :=
  if k ≤ 0 then '0' :: '.' :: List.replicate (-k).toNat '0' ++ digits
  else if k.toNat < digits.length then digits.take k.toNat ++ '.' :: digits.drop k.toNat
  else digits ++ List.replicate (k.toNat - digits.length) '0'

def exponentPart (e : Int) : List Char :=
  'E' :: (if e < 0 then '-' else '+') :: digitsOf e.natAbs

/-- Write a finite number: without exponent while the exponent is at most zero and the first digit
stands no lower than the sixth place after the point, else with one digit before the point. -/
def writeFinite (coefficient : Nat) (exponent : Int) : List Char :=
  let digits := digitsOf coefficient
  let a := adjusted coefficient exponent
  if exponent ≤ 0 ∧ -6 ≤ a then pointed digits (a + 1)
  else pointed digits 1 ++ exponentPart a

def write : Decimal → List Char
  | .finite negative coefficient exponent => signOf negative ++ writeFinite coefficient exponent
  | .infinite negative => signOf negative ++ "Infinity".toList
  | .nan negative signaling payload =>
    signOf negative ++ (if signaling then "sNaN".toList else "NaN".toList)
      ++ (if payload = 0 then [] else digitsOf payload)

def text (d : Decimal) : String :=
  String.ofList d.write

def isFinite : Decimal → Bool
  | .finite .. => true
  | _ => false

end Decimal

end RowLoader.Number
