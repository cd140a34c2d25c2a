import RowLoader.Value
import RowLoader.Number.ColumnReal

/-!
What a store keeps. A value becomes a cell when it is bound to a statement; a column stores cells
under its affinity, and compares with them under the same affinity.
-/

namespace RowLoader.Store

open RowLoader.Number RowLoader.Calendar RowLoader.Text

/-- A stored value. -/
inductive Cell where
  | null
  | int (n : Int)
  | real (x : Binary64)
  | text (s : String)
deriving Repr, DecidableEq

/-- What a column makes of the cells it is given. -/
inductive Affinity where
  | text
  | number
deriving Repr, DecidableEq

/-- The integers that a store can hold: 64 bits with sign. -/
def fitsInteger (n : Int) : Bool :=
  -Int.pow 2 63 ≤ n && n < Int.pow 2 63

/-- A value that no statement can carry because it signals. -/
def signals : Value → Bool
  | .amount (.nan _ signaling _) => signaling
  | _ => false

/-- A value that no statement can carry because it is too large an integer. -/
def tooLarge : Value → Bool
  | .whole n => !fitsInteger n
  | _ => false

/-- A binary number as a cell; not-a-number is null. -/
def cellOfReal : Binary64 → Cell
  | .nan => .null
  | x => .real x

def bind : Value → Cell
  | .null => .null
  | .flag b => .int (if b then 1 else 0)
  | .whole n => .int n
  | .amount d =>
    match Binary64.ofDecimal? d with
    | some x => cellOfReal x
    | none => .null
  | .real x => cellOfReal x
  | .day d => .text d.text
  | .moment t => .text t.columnText
  | .text s => .text s

namespace Cell

def value : Cell → Value
  | .null => .null
  | .int n => .whole n
  | .real x => .real x
  | .text s => .text s

/-- What sort of thing a cell holds, in a message. -/
def sort : Cell → String
  | .null => "NoneType"
  | .int _ => "int"
  | .real _ => "float"
  | .text _ => "str"

def int? : Cell → Option Int
  | .int n => some n
  | _ => none

def text? : Cell → Option String
  | .text s => some s
  | _ => none

/-- A real that is an integer well inside 64 bits becomes that integer. -/
def ofReal (x : Binary64) : Cell :=
  match x.toInt? with
  | some n => if -Int.pow 2 63 < n ∧ n < Int.pow 2 63 then .int n else .real x
  | none => .real x

/-- The number that a text spells as a whole, white space of ASCII around it apart: a sign, digits
with at most one point, an exponent. Digits alone are an integer as far as 64 bits reach. -/
def ofNumeral? (s : String) : Option Cell :=
  let (negative, body) := takeSign (trimBy isAsciiBlank s.toList)
  if !body.isEmpty && body.all isAsciiDigit then
    let n := applySign negative (natOfDigits body)
    some (if fitsInteger n then .int n else ofReal (ColumnReal.read negative body [] 0))
  else
    let whole := body.takeWhile isAsciiDigit
    let (fraction, rest) := Decimal.takeFraction (body.dropWhile isAsciiDigit)
    if whole.isEmpty && fraction.isEmpty then none
    else (Decimal.readExponent? rest).map fun e => ofReal (ColumnReal.read negative whole fraction e)

/-- The cell that a column stores for a given one: a text column turns numbers to text, a number
column turns numerals to numbers and whole reals to integers. -/
def stored : Affinity → Cell → Cell
  | _, .null => .null
  | .text, .int n => .text (intText n)
  | .text, .real x => .text (ColumnReal.text x)
  | .text, .text s => .text s
  | .number, .int n => .int n
  | .number, .real x => ofReal x
  | .number, .text s => (ofNumeral? s).getD (.text s)

/-- Equality of cells by value: null equals nothing, integers and reals compare as numbers. -/
def same : Cell → Cell → Bool
  | .int a, .int b => a == b
  | .int a, .real y => y.toInt? == some a
  | .real x, .int b => x.toInt? == some b
  | .real x, .real y => x.sameNumber y
  | .text s, .text t => s == t
  | _, _ => false

/-- A column of some affinity holds a cell that equals a bound one. -/
def equals (affinity : Affinity) (held bound : Cell) : Bool :=
  held.same (bound.stored affinity)

end Cell

end RowLoader.Store
