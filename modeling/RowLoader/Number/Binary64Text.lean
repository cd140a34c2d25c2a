import RowLoader.Number.Binary64

/-!
Binary numbers as decimal text. A format writes digits with a point, and leaves positional notation
for very large and very small numbers; the shortest text takes the fewest digits that read back as the
same number.
-/

namespace RowLoader.Number

open RowLoader.Text

/-- A positive decimal: its digits, and the exponent of the first of them. -/
structure Scientific where
  digits : List Char
  exponent : Int
deriving Repr, DecidableEq

def dropZeros : List Char → List Char
  | [] => []
  | c :: r => c :: dropTail (· = '0') r

/-- The digits of q · 10 ^ u, for a positive q. -/
def Scientific.ofGrid (q : Nat) (u : Int) : Scientific :=
  ⟨dropZeros (digitsOf q), u + (digitsOf q).length - 1⟩

namespace Binary64

def fraction (m : Nat) (e : Int) : Nat × Nat :=
  scaled 2 e m 1

def fractionLe (x y : Nat × Nat) : Bool :=
  x.1 * y.2 ≤ y.1 * x.2

def fractionLt (x y : Nat × Nat) : Bool :=
  x.1 * y.2 < y.1 * x.2

/-- The midpoint below m · 2 ^ e. Under a power of two the neighbour is half as far. -/
def lowerMidpoint (m : Nat) (e : Int) : Nat × Nat :=
  if m = Nat.pow 2 52 ∧ leastExponent < e then fraction (4 * m - 1) (e - 2)
  else fraction (2 * m - 1) (e - 1)

def upperMidpoint (m : Nat) (e : Int) : Nat × Nat :=
  fraction (2 * m + 1) (e - 1)

/-- A fraction reads back as m · 2 ^ e: it lies between the midpoints, which belong to the even
significand. -/
def readsBack (m : Nat) (e : Int) (x : Nat × Nat) : Bool :=
  if m % 2 = 0 then fractionLe (lowerMidpoint m e) x && fractionLe x (upperMidpoint m e)
  else fractionLt (lowerMidpoint m e) x && fractionLt x (upperMidpoint m e)

/-- The decimal exponent of the first digit of a positive fraction, by search upwards from a
bound below it. -/
def firstDigit (x : Nat × Nat) : Nat → Int → Int
  | 0, p => p
  | fuel + 1, p =>
    if fractionLe (scaled 10 (p + 1) 1 1) x then firstDigit x fuel (p + 1) else p

def decimalExponent (m : Nat) (e : Int) : Int :=
  let guess := (((m.log2 : Int) + e) * 30103) / 100000 - 1
  firstDigit (fraction m e) 4 guess

/-- The decimal on the grid of 10 ^ u that reads back as m · 2 ^ e: of the two neighbours that do
the nearer one, and the even one when both are equally near. -/
def onGrid? (m : Nat) (e : Int) (u : Int) : Option Nat :=
  let (num, den) := fraction m e
  let (a, b) := scaled 10 (-u) num den
  let q := a / b
  let low := decide (0 < q) && readsBack m e (scaled 10 u q 1)
  let high := readsBack m e (scaled 10 u (q + 1) 1)
  if low && high then some (roundHalfEven a b)
  else if low then some q
  else if high then some (q + 1)
  else none

/-- The first grid that holds a decimal that reads back, from coarse to fine. -/
def shortestFrom (m : Nat) (e : Int) : Nat → Int → Scientific
  | 0, u => .ofGrid (roundHalfEven (scaled 10 (-u) (fraction m e).1 (fraction m e).2).1
      (scaled 10 (-u) (fraction m e).1 (fraction m e).2).2) u
  | fuel + 1, u =>
    match onGrid? m e u with
    | some q => .ofGrid q u
    | none => shortestFrom m e fuel (u - 1)

/-- The fewest digits that read back as m · 2 ^ e; seventeen always suffice. -/
def shortest (m : Nat) (e : Int) : Scientific :=
  shortestFrom m e 17 (decimalExponent m e)

/-- A format for binary numbers: from which exponent of the first digit on scientific notation is
used, whether a lone digit before an exponent keeps its point, whether a zero keeps its sign, and
the word for infinity. -/
structure Format where
  scientificFrom : Int
  pointBeforeExponent : Bool
  signedZero : Bool
  infinity : String
deriving Repr, DecidableEq

/-- A point after the first k digits, with a zero after it when no digit is left. -/
def withPoint (digits : List Char) (k : Int) : List Char :=
  if (digits.length : Int) ≤ k then Decimal.pointed digits k ++ ['.', '0']
  else Decimal.pointed digits k

/-- Positional from 10 ^ -4 up to a bound, else scientific with an exponent of two digits at least. -/
def Format.write (f : Format) (s : Scientific) : List Char :=
  if -4 ≤ s.exponent ∧ s.exponent < f.scientificFrom then withPoint s.digits (s.exponent + 1)
  else
    (if f.pointBeforeExponent then withPoint s.digits 1 else Decimal.pointed s.digits 1)
      ++ 'e' :: (if s.exponent < 0 then '-' else '+') :: padded 2 s.exponent.natAbs

def Format.text (f : Format) (digits : Nat → Int → Scientific) : Binary64 → String
  | .finite negative 0 _ => if negative && f.signedZero then "-0.0" else "0.0"
  | .finite negative m e => String.ofList (Decimal.signOf negative ++ f.write (digits m e))
  | .infinite negative => String.ofList (Decimal.signOf negative) ++ f.infinity
  | .nan => "nan"

/-- The shortest text that reads back: positional below 10 ^ 16. -/
def text (x : Binary64) : String :=
  Format.text ⟨16, false, true, "inf"⟩ shortest x

end Binary64

end RowLoader.Number
