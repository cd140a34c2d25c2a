import RowLoader.Work
import RowLoader.Source
import RowLoader.Text.Case

/-!
From cells to values. A null cell is null; digits in a numeric column are that number; a field with
a look-up takes its value from the one record that the cell picks; any other cell is cast to the kind
of its column.
-/

namespace RowLoader.Resolve

open RowLoader.Header RowLoader.Number RowLoader.Calendar RowLoader.Dictionary RowLoader.Store
open RowLoader.Text RowLoader.Identifier

def nullWord : String := "(null)"

/-- A missing cell, an empty one, and the word for null in any case. -/
def isNull : Option String → Bool
  | none => true
  | some s => s.isEmpty || lower s == nullWord

/-- Digits of ASCII alone, a final line feed apart. -/
def isDigits (s : String) : Bool :=
  let body := dropFinalFeed s.toList
  !body.isEmpty && body.all isAsciiDigit

/-- A numeral of an integer: digits after at most one sign. -/
def isIntegerNumeral (s : String) : Bool :=
  let body := (takeSign (dropFinalFeed s.toList)).2
  !body.isEmpty && body.all isAsciiDigit

def isDecimalNumeral (s : String) : Bool :=
  let body := (takeSign (dropFinalFeed s.toList)).2
  let whole := body.takeWhile isAsciiDigit
  let (fraction, rest) := Decimal.takeFraction (body.dropWhile isAsciiDigit)
  !(whole.isEmpty && fraction.isEmpty) && (Decimal.readExponent? rest).isSome

def integer (s : String) : Except Failure Int :=
  match readInt s.toList with
  | .ok n => .ok n
  | .error .malformed => .error (.notAnInteger s)
  | .error (.tooLong digits) => .error (.tooManyDigits digits)

def decimal (s : String) : Except Failure Decimal :=
  match Decimal.read s.toList with
  | .ok d => .ok d
  | .error _ => .error .decimalRange

/-- Digits as a number of the kind of their column. -/
def literal (kind : Kind) (s : String) : Except Failure Value :=
  match kind with
  | .integer => (integer s).map .whole
  | _ => (decimal s).map .amount

/-- A value as it was found, turned to the kind of its column: digits in an integer column and texts
of decimals in a decimal column become numbers. -/
def normalizeNumber (kind : Kind) : Value → Except Failure Value
  | .text s =>
    match kind with
    | .integer => if isDigits s then (integer s).map .whole else .ok (.text s)
    | .decimal =>
      match Decimal.read s.toList with
      | .ok d => .ok (.amount d)
      | .error _ => .ok (.text s)
    | _ => .ok (.text s)
  | v => .ok v

def problemAt (f : Field) (row : Int) (problem : RowProblem) : Failure :=
  .fault (.ofRow ⟨row, some f.position, some f.label, problem⟩)

def castProblem (table : String) (f : Field) (raw : String) (row : Int) (reason : String)
    (cause : Option String) : Failure :=
  problemAt f row (.typeCast s!"{reason} for column {table}.{f.target}" (.text raw) cause)

def yesWords : List String := ["y", "yes", "true", "1", "s", "si", "s\u00ed"]
def noWords : List String := ["n", "no", "false", "0"]

/-- Ten characters are a date, any other text a date with time. -/
def readTemporal (raw : String) : Except Calendar.Fault Value :=
  if raw.length = 10 then (Date.read raw.toList).map .day
  else (Timestamp.read raw.toList).map .moment

def cast (info : Option ColumnInfo) (table : String) (f : Field) (raw : String) (row : Int) :
    Except Failure Value :=
  let problem := castProblem table f raw row
  match kindOf info with
  | .text =>
    let limit := lengthOf info
    match exceeds raw.length limit with
    | .error e => .error e
    | .ok false => .ok (.text raw)
    | .ok true =>
      let words := s!"value too long: '{raw}' (max={limit.value.display}, len={raw.length})"
      .error (problem words none)
  | .integer =>
    if isIntegerNumeral raw then (integer raw).map .whole
    else .error (problem s!"expected an integer, got '{raw}'" none)
  | .decimal =>
    if isDecimalNumeral raw then (decimal raw).map .amount
    else .error (problem s!"expected a number, got '{raw}'" none)
  | .boolean =>
    let word := lower raw
    if word ∈ yesWords then .ok (.text "Y")
    else if word ∈ noWords then .ok (.text "N")
    else .error (problem s!"expected Y/N, got '{raw}'" none)
  | .temporal =>
    match readTemporal raw with
    | .ok v => .ok v
    | .error f =>
      .error (problem s!"expected a date (yyyy-mm-dd[ hh:mm:ss]), got '{raw}'" (some f.message))

/-- The names of a look-up: table, target and look-up column, tested in this order. -/
def lookupNames (f : Field) : Except RowLoader.Fault (String × String × String) := do
  let place := placeOf f
  let table ← checked f.lookupTable (some place)
  let target ← checked (some f.target) (some place)
  let column ← checked f.lookup (some place)
  return (table, target, column)

/-- The target value of the one record whose look-up column equals the cell, by the names of the
look-up. -/
def lookupValue (s : Store) (names : String × String × String) (kind : Kind) (f : Field)
    (raw : String) (row : Int) : Except Failure Value := do
  let (table, target, column) := names
  let (t, hits) ← (matching s table column (.text raw)).mapError Failure.store
  match hits with
  | [] => throw (problemAt f row (.lookupNotFound (.text raw) (.text table) (.text column)))
  | [r] =>
    (checkTarget target).mapError Failure.store
    match t.operand? s.now target with
    | some operand => normalizeNumber kind (operand.read r).value
    | none => throw (.store (.noSuchColumn (bare target)))
  | _ =>
    throw (problemAt f row (.lookupAmbiguous (.text raw) (.text table) (.text column) hits.length))

/-- The two questions that a look-up puts to the store, as texts with one parameter. -/
def lookupTexts (table target column : String) : String × String :=
  (s!"SELECT COUNT(*) FROM {table} WHERE {column} = :value",
    s!"SELECT {target} FROM {table} WHERE {column} = :value")

/-- The value of a cell that is not null. The store is used only for a look-up. -/
def valueOf (info : Option ColumnInfo) (table : String) (f : Field) (raw : String) (row : Int) :
    Work Value :=
  let kind := kindOf info
  if kind.isNumeric && isDigits raw then Work.ofExcept (literal kind raw)
  else if f.lookup.isSome then do
    let names ← Work.ofFault (lookupNames f)
    Work.ofExcept (lookupValue (← Work.store) names kind f raw row)
  else Work.ofExcept (cast info table f raw row)

/-- The value of a cell. The dictionary is asked only for a cell that is not null. -/
def resolve (table : String) (f : Field) (raw : Option String) (row : Int) : Work Value :=
  if isNull raw then return .null
  else do
    valueOf (← Work.columnInfo table f.target) table f (raw.getD "") row

/-- The values of a record under its target columns, in the order of the header. -/
def resolveRow (table : String) (record : Source.Record) : Columns → List Field → Work Columns
  | columns, [] => return columns
  | columns, f :: rest => do
    let raw ← Work.ofExcept (record.cell f)
    let v ← resolve table f raw record.row
    resolveRow table record (columns.put f.target v) rest

end RowLoader.Resolve
