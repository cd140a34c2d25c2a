/-!
Digits. A decimal digit is any of Unicode's decimal digits, ten in a row from a zero; the digit-like
characters have a digit value without being decimal digits (superscripts, circled digits).
-/

namespace RowLoader.Text

def digitZeros : List Nat :=
  [48, 1632, 1776, 1984, 2406, 2534, 2662, 2790, 2918, 3046, 3174, 3302, 3430, 3558, 3664, 3792,
    3872, 4160, 4240, 6112, 6160, 6470, 6608, 6784, 6800, 6992, 7088, 7232, 7248, 42528, 43216,
    43264, 43472, 43504, 43600, 44016, 65296, 66720, 68912, 69734, 69872, 69942, 70096, 70384,
    70736, 70864, 71248, 71360, 71472, 71904, 72016, 72784, 73040, 73120, 92768, 92864, 93008,
    120782, 120792, 120802, 120812, 120822, 123200, 123632, 125264, 130032]

/-- The ranges of characters with a digit value that are no decimal digits, ends included. -/
def digitLikeRanges : List (Nat × Nat) :=
  [(178, 179), (185, 185), (4969, 4977), (6618, 6618), (8304, 8304), (8308, 8313), (8320, 8329),
    (9312, 9320), (9332, 9340), (9352, 9360), (9450, 9450), (9461, 9469), (9471, 9471),
    (10102, 10110), (10112, 10120), (10122, 10130), (68160, 68163), (69216, 69224),
    (69714, 69722), (127232, 127242)]

def digitValue? (c : Char) : Option Nat :=
  (digitZeros.find? (fun z => z ≤ c.toNat && c.toNat ≤ z + 9)).map (c.toNat - ·)

/-- A character with a digit value, decimal digit or not. -/
def isDigitLike (c : Char) : Bool :=
  (digitValue? c).isSome || digitLikeRanges.any (fun r => r.1 ≤ c.toNat && c.toNat ≤ r.2)

def isAsciiDigit (c : Char) : Bool :=
  '0' ≤ c && c ≤ '9'

/-- The number that a list of digit values spells, most significant first. -/
def numberOf (digits : List Nat) : Nat :=
  digits.foldl (fun n d => 10 * n + d) 0

def natOfDigits (s : List Char) : Nat :=
  numberOf (s.map (fun c => c.toNat - 48))

/-- The decimal digits of a number, without leading zeros. -/
def digitsOf (n : Nat) : List Char :=
  Nat.toDigits 10 n

/-- The digits of a number, with zeros in front up to a width. -/
def padded (width n : Nat) : List Char :=
  List.replicate (width - (digitsOf n).length) '0' ++ digitsOf n

end RowLoader.Text
