import RowLoader.Number.Extended
import RowLoader.Number.Binary64Text

/-!
Reals on their way into a column. A numeral becomes a real by a significand of about nineteen digits
and one power of ten, in extended precision, which is near the nearest real but not always it. A real
becomes text of fifteen digits, taken one by one in the same precision.
-/

namespace RowLoader.Number

open RowLoader.Text

namespace ColumnReal

/-- A significand from here on takes no more digits. -/
def fullSignificand : Nat := 922337203685477579

/-- Append digits to a significand until it is full; the answer has the number of digits left out. -/
def takeDigits (significand : Nat) : List Char → Nat × Nat
  | [] => (significand, 0)
  | c :: r =>
    if fullSignificand ≤ significand then (significand, r.length + 1)
    else takeDigits (10 * significand + (c.toNat - 48)) r

/-- An exponent of more than five digits counts as ten thousand. -/
def cappedExponent (e : Int) : Int :=
  if e.natAbs < 100000 then e else if e < 0 then -10000 else 10000

/-- Move powers of ten into a significand while there is room; the answer has what is left of them. -/
def raise (significand : Nat) : Nat → Nat × Nat
  | 0 => (significand, 0)
  | e + 1 =>
    if significand ≤ fullSignificand then raise (10 * significand) e else (significand, e + 1)

/-- Take powers of ten out of a significand while it has them. -/
def lower (significand : Nat) : Nat → Nat × Nat
  | 0 => (significand, 0)
  | e + 1 => if significand % 10 = 0 then lower (significand / 10) e else (significand, e + 1)

/-- The power of ten that is taken in a step of its own. -/
def tenTo308 : Binary64 := Binary64.ofFinite false 1 308

def scaledUp (negative : Bool) (significand e : Nat) : Binary64 :=
  let x := Extended.ofNat significand
  if e ≤ 307 then (x.mul (Extended.tenTo e)).toBinary64 negative
  else if e < 342 then ((x.mul (Extended.tenTo (e - 308))).toBinary64 negative).mul tenTo308
  else .infinite negative

def scaledDown (negative : Bool) (significand e : Nat) : Binary64 :=
  let x := Extended.ofNat significand
  if e ≤ 307 then (x.div (Extended.tenTo e)).toBinary64 negative
  else if e < 342 then ((x.div (Extended.tenTo (e - 308))).toBinary64 negative).div tenTo308
  else Binary64.zero negative

/-- The real that a numeral spells: digits, digits behind the point, and an exponent. -/
def read (negative : Bool) (whole fraction : List Char) (exponent : Int) : Binary64 :=
  let (significand, dropped) := takeDigits 0 whole
  let (significand, unused) := takeDigits significand fraction
  let e := cappedExponent exponent + dropped - (fraction.length - unused : Nat)
  if significand = 0 then Binary64.zero negative
  else if 0 ≤ e then
    let (significand, e) := raise significand e.toNat
    scaledUp negative significand e
  else
    let (significand, e) := lower significand (-e).toNat
    scaledDown negative significand e

/-- A number over a scale that was multiplied by a step as long as it was not too large; the second
part is the power of ten of the scale. -/
def climb (x step : Extended) (power : Nat) : Nat → Extended × Nat → Extended × Nat
  | 0, p => p
  | fuel + 1, (scale, p) =>
    if (step.mul scale).le x then climb x step power fuel (scale.mul step, p + power) else (scale, p)

/-- Multiply a number by a step as long as it lies below a bound, and count the powers of ten. -/
def lift (bound step : Extended) (power : Nat) : Nat → Extended × Nat → Extended × Nat
  | 0, p => p
  | fuel + 1, (x, p) =>
    if x.lt bound then lift bound step power fuel (x.mul step, p + power) else (x, p)

/-- A positive number as a number from 1 to 10 and a power of ten. -/
def scientific (x : Extended) : Extended × Int :=
  let one := Extended.ofNat 1
  let (scale, up) := climb x (.constant 1 100) 100 4 (one, 0)
  let (scale, up) := climb x (.constant 1 10) 10 10 (scale, up)
  let (scale, up) := climb x (.ofNat 10) 1 10 (scale, up)
  let (x, down) := lift (.constant 1 (-8)) (.constant 1 8) 8 50 (x.div scale, 0)
  let (x, down) := lift one (.ofNat 10) 1 10 (x, down)
  (x, (up : Int) - down)

def halfUnit : Extended :=
  .ofBinary64 ((Binary64.ofFinite false 5 (-5)).mul (Binary64.ofFinite false 1 (-10)))

/-- The digits of a number below 10, from the first on. -/
def leadingDigits : Nat → Extended → List Char
  | 0, _ => []
  | n + 1, x =>
    Char.ofNat (48 + x.floor) :: leadingDigits n ((x.sub (.ofNat x.floor)).mul (.ofNat 10))

/-- Fifteen digits of m · 2 ^ e. -/
def fifteenDigits (m : Nat) (e : Int) : Scientific :=
  let (x, exponent) := scientific (.ofScaled m e)
  let x := x.add halfUnit
  let (x, exponent) :=
    if (Extended.ofNat 10).le x then (x.mul (.constant 1 (-1)), exponent + 1) else (x, exponent)
  ⟨dropZeros (leadingDigits 15 x), exponent⟩

/-- The text that a text column keeps: fifteen digits, positional below 10 ^ 15. -/
def text (x : Binary64) : String :=
  Binary64.Format.text ⟨15, true, false, "Inf"⟩ fifteenDigits x

end ColumnReal

end RowLoader.Number
