import RowLoader.Number.Binary64

/-!
Binary numbers with a significand of 64 bits, for intermediate results: no sign, and no bound on the
exponent. An operation is exact arithmetic and one rounding to nearest, ties to the even significand.
-/

namespace RowLoader.Number

/-- The number significand · 2 ^ exponent. Unless it is zero, the significand is at least 2 ^ 63. -/
structure Extended where
  significand : Nat
  exponent : Int
deriving Repr, DecidableEq

namespace Extended

def zero : Extended := ⟨0, 0⟩

def ofRatio (num den : Nat) : Extended :=
  if num = 0 then zero
  else
    let e := Binary64.leadingBit num den - 63
    let (a, b) := scaled 2 (-e) num den
    let m := roundHalfEven a b
    if m = Nat.pow 2 64 then ⟨Nat.pow 2 63, e + 1⟩ else ⟨m, e⟩

def ofScaled (n : Nat) (e : Int) : Extended :=
  let (num, den) := scaled 2 e n 1
  ofRatio num den

def ofNat (n : Nat) : Extended :=
  ofScaled n 0

def mul (x y : Extended) : Extended :=
  ofScaled (x.significand * y.significand) (x.exponent + y.exponent)

def div (x y : Extended) : Extended :=
  let (num, den) := scaled 2 (x.exponent - y.exponent) x.significand y.significand
  ofRatio num den

def aligned (x y : Extended) : Nat × Nat × Int :=
  let least := min x.exponent y.exponent
  (x.significand * Nat.pow 2 (x.exponent - least).toNat,
    y.significand * Nat.pow 2 (y.exponent - least).toNat, least)

def add (x y : Extended) : Extended :=
  let (a, b, e) := aligned x y
  ofScaled (a + b) e

def sub (x y : Extended) : Extended :=
  let (a, b, e) := aligned x y
  ofScaled (a - b) e

def le (x y : Extended) : Bool :=
  let (a, b, _) := aligned x y
  a ≤ b

def lt (x y : Extended) : Bool :=
  !le y x

def floor (x : Extended) : Nat :=
  let (num, den) := scaled 2 x.exponent x.significand 1
  num / den

/-- The size of a finite binary number of 64 bits, which is exact. -/
def ofBinary64 : Binary64 → Extended
  | .finite _ m e => ofScaled m e
  | _ => zero

def toBinary64 (negative : Bool) (x : Extended) : Binary64 :=
  let (num, den) := scaled 2 x.exponent x.significand 1
  Binary64.ofRatio negative num den

/-- The decimal coefficient · 10 ^ exponent as a constant: rounded to a number of 64 bits first. -/
def constant (coefficient : Nat) (exponent : Int) : Extended :=
  ofBinary64 (Binary64.ofFinite false coefficient exponent)

/-- Multiply a result by the squares of a base that the bits of an exponent ask for, from the low
bit on. The fuel is the exponent, which every step halves. -/
def powerFrom (result base : Extended) : Nat → Nat → Extended
  | 0, _ => result
  | fuel + 1, n =>
    let result := if n % 2 = 1 then result.mul base else result
    if n / 2 = 0 then result else powerFrom result (base.mul base) fuel (n / 2)

/-- A power of ten, by repeated squaring with a rounding at every step. -/
def tenTo (n : Nat) : Extended :=
  powerFrom (ofNat 1) (ofNat 10) n n

end Extended

end RowLoader.Number
