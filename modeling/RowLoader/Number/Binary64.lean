import RowLoader.Number.Decimal

/-!
Binary floating-point numbers of 64 bits, held exactly: a sign, a significand below 2 ^ 53 and a power
of two. Rounding is to nearest, ties to the even significand, and works on exact quotients.
-/

namespace RowLoader.Number

open RowLoader.Text

/-- A binary number. In canonical form the significand is at least 2 ^ 52 unless the exponent is the
least one, -1074; zero has significand 0 and the least exponent. -/
inductive Binary64 where
  | finite (negative : Bool) (significand : Nat) (exponent : Int)
  | infinite (negative : Bool)
  | nan
deriving Repr, DecidableEq

/-- The quotient of two numbers to the nearest integer, a half to the even neighbour. -/
def roundHalfEven (num den : Nat) : Nat :=
  let q := num / den
  let r := num % den
  if 2 * r < den then q else if den < 2 * r then q + 1 else q + q % 2

def scaled (base : Nat) (e : Int) (num den : Nat) : Nat × Nat :=
  if 0 ≤ e then (num * base.pow e.toNat, den) else (num, den * base.pow (-e).toNat)

namespace Binary64

def leastExponent : Int := -1074
def greatestExponent : Int := 971

def zero (negative : Bool) : Binary64 :=
  .finite negative 0 leastExponent

def leadingBit (num den : Nat) : Int :=
  let d : Int := (num.log2 : Int) - den.log2
  let (a, b) := scaled 2 (-d) num den
  if b ≤ a then d else d - 1

/-- A rounded significand with its exponent: a carry into the next binade is moved down, and what
lies above the greatest exponent is infinite. -/
def normalize (negative : Bool) (m : Nat) (e : Int) : Binary64 :=
  let (m, e) := if m = Nat.pow 2 53 then (Nat.pow 2 52, e + 1) else (m, e)
  if greatestExponent < e then .infinite negative else .finite negative m e

/-- The binary number nearest to ± num / den, for a positive denominator. -/
def ofRatio (negative : Bool) (num den : Nat) : Binary64 :=
  if num = 0 then zero negative
  else
    let e := max (leadingBit num den - 52) leastExponent
    let (a, b) := scaled 2 (-e) num den
    normalize negative (roundHalfEven a b) e

/-- The binary number nearest to a finite decimal. Beyond 400 places the answer no longer depends on
the digits. -/
def ofFinite (negative : Bool) (coefficient : Nat) (exponent : Int) : Binary64 :=
  let a := Decimal.adjusted coefficient exponent
  if coefficient = 0 ∨ a < -400 then zero negative
  else if 400 < a then .infinite negative
  else
    let (num, den) := scaled 10 exponent coefficient 1
    ofRatio negative num den

/-- The binary number nearest to a decimal; a signaling not-a-number has none. -/
def ofDecimal? : Decimal → Option Binary64
  | .finite negative coefficient exponent => some (ofFinite negative coefficient exponent)
  | .infinite negative => some (.infinite negative)
  | .nan _ signaling _ => if signaling then none else some .nan

def toInt? : Binary64 → Option Int
  | .finite negative m e =>
    if 0 ≤ e then some (applySign negative (m * Nat.pow 2 e.toNat))
    else if m % Nat.pow 2 (-e).toNat = 0 then some (applySign negative (m / Nat.pow 2 (-e).toNat))
    else none
  | _ => none

/-- Equality of numbers: the two zeros are equal, and not-a-number equals nothing. -/
def sameNumber (a b : Binary64) : Bool :=
  match a, b with
  | .finite _ 0 _, .finite _ 0 _ => true
  | .nan, _ => false
  | _, _ => a == b

def lessThan (x : Binary64) (n : Nat) : Bool :=
  match x with
  | .finite negative m e =>
    let (num, den) := scaled 2 e m 1
    if negative then 0 < m || 0 < n else num < n * den
  | .infinite negative => negative
  | .nan => false

def ofScaled (n : Int) (e : Int) : Binary64 :=
  let (num, den) := scaled 2 e n.natAbs 1
  ofRatio (n < 0) num den

def ofInt (n : Int) : Binary64 :=
  ofScaled n 0

def add : Binary64 → Binary64 → Binary64
  | .finite s m e, .finite s' m' e' =>
    let least := min e e'
    let n := applySign s (m * Nat.pow 2 (e - least).toNat)
      + applySign s' (m' * Nat.pow 2 (e' - least).toNat)
    if n = 0 then zero (s && s') else ofScaled n least
  | .infinite s, .infinite s' => if s = s' then .infinite s else .nan
  | .infinite s, .finite .. => .infinite s
  | .finite .., .infinite s => .infinite s
  | _, _ => .nan

def mul : Binary64 → Binary64 → Binary64
  | .finite s m e, .finite s' m' e' =>
    let (num, den) := scaled 2 (e + e') (m * m') 1
    ofRatio (s != s') num den
  | .infinite s, .infinite s' => .infinite (s != s')
  | .infinite s, .finite s' m _ => if m = 0 then .nan else .infinite (s != s')
  | .finite s m _, .infinite s' => if m = 0 then .nan else .infinite (s != s')
  | _, _ => .nan

def div : Binary64 → Binary64 → Binary64
  | .finite s m e, .finite s' m' e' =>
    if m' = 0 then if m = 0 then .nan else .infinite (s != s')
    else
      let (num, den) := scaled 2 (e - e') m m'
      ofRatio (s != s') num den
  | .infinite s, .finite s' .. => .infinite (s != s')
  | .finite s .., .infinite s' => zero (s != s')
  | _, _ => .nan

end Binary64

end RowLoader.Number
