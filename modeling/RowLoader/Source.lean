import RowLoader.Fault
import RowLoader.Header
import RowLoader.Text.Lines

/-!
Import files: from bytes to lines to numbered records. Every data line must have a cell for each
field of the header, and no two records may agree in the cell of a key field; all violations of a
file are found before any of them is reported.
-/

namespace RowLoader.Source

open RowLoader.Text RowLoader.Header

/-- What a path leads to; one that is too long leads nowhere. -/
inductive Content where
  | missing
  | directory
  | tooLong
  | bytes (b : List UInt8)
deriving Repr, DecidableEq

/-- The filled lines of a byte sequence in UTF-8. The offset of a fault counts from behind a leading
byte order mark. -/
def linesOfBytes (b : List UInt8) : Except Utf8.Fault (List String) :=
  (Utf8.decode (Utf8.dropMark b)).map
    (fun s => ((linesOf s).filter (fun l => !l.all isBlank)).map String.ofList)

/-- The filled lines of a file, of which there must be one at least. -/
def readLines (path : String) : Content → Except Fault (List String)
  | .bytes b =>
    match linesOfBytes b with
    | .error f => .error (.invalidSource path f.offset f.reason.text)
    | .ok [] => .error (.emptySource path)
    | .ok lines => .ok lines
  | _ => .error (.missingSource path)

/-- The separator of a file, by its first line: a semicolon wins over a tab, a tab over the comma,
which is taken where there is neither. -/
def separatorOf (line : String) : Separator :=
  if line.toList.contains ';' then .semicolon
  else if line.toList.contains '\t' then .tab
  else .comma

def cellsOf (separator : Separator) (line : String) : List String :=
  (split separator line.toList).map (fun f => String.ofList (trimChars f))

/-- The trimmed fields of a line under a separator that may turn out to be empty. -/
def cellsBy (separator line : String) : Except Failure (List String) :=
  match Separator.ofString? separator with
  | none => .error .emptySeparator
  | some p => .ok (cellsOf p line)

/-- A data line: its number among the filled lines, and one trimmed cell for each field. -/
structure Record where
  row : Int
  cells : List String
deriving Repr, DecidableEq

/-- The cell at a position, counted from 1; positions below 1 count backwards from the last cell.
There is none beyond the last, and it is a failure to count back beyond the first, another one beyond
64 bits. -/
def cellAt (cells : List String) (position : Int) : Except Failure (Option String) :=
  let i := position - 1
  if 0 ≤ i then .ok cells[i.toNat]?
  else if 0 ≤ i + cells.length then .ok cells[(i + cells.length).toNat]?
  else if -Int.pow 2 63 ≤ i then .error .noSuchCell
  else .error .positionRange

def Record.cell (r : Record) (f : Field) : Except Failure (Option String) :=
  cellAt r.cells f.position

/-- The key cells of the records so far: position of the field, cell, row. -/
abbrev Seen := List (Int × String × Int)

/-- The row in which a key field had a cell first. -/
def Seen.row? (seen : Seen) (position : Int) (cell : String) : Option Int :=
  (seen.find? (fun s => s.1 = position && s.2.1 = cell)).map (·.2.2)

def keyCell (cells : List String) (f : Field) : String :=
  cells.getD (f.position - 1).toNat ""

/-- The repeated key cells of a record, field by field. -/
def repeats (seen : Seen) (row : Int) (cells : List String) (keyFields : List Field) :
    List RowFault :=
  keyFields.filterMap fun f =>
    let cell := keyCell cells f
    (seen.row? f.position cell).map fun first =>
      ⟨row, some f.position, some f.label, .duplicateKey (.text cell) first⟩

/-- The key cells of a record that were not seen before, entered behind the earlier ones. -/
def enter (seen : Seen) (row : Int) (cells : List String) (keyFields : List Field) : Seen :=
  keyFields.foldl (fun seen f =>
    let cell := keyCell cells f
    if (seen.row? f.position cell).isSome then seen else seen ++ [(f.position, cell, row)]) seen

/-- The records of some lines together with everything that is wrong with the lines. An incomplete
line yields no record and enters no key cell. -/
def examine (fields : List Field) (separator : Separator) (row : Int) (seen : Seen) :
    List String → List Record × List RowFault
  | [] => ([], [])
  | line :: rest =>
    let found := cellsOf separator line
    if found.length < fields.length then
      let (records, problems) := examine fields separator (row + 1) seen rest
      (records,
        ⟨row, none, none, .malformed fields.length found.length (.text line)⟩ :: problems)
    else
      let cells := found.take fields.length
      let (records, problems) :=
        examine fields separator (row + 1) (enter seen row cells (keys fields)) rest
      (⟨row, cells⟩ :: records, repeats seen row cells (keys fields) ++ problems)

/-- The records of a file, or its first problem with all the others. -/
def ingest (fields : List Field) (separator : Separator) (firstRow : Int) (lines : List String) :
    Except Fault (List Record) :=
  match examine fields separator firstRow [] lines with
  | (records, []) => .ok records
  | (_, first :: rest) => .error (.row first (first :: rest))

/-- The records of a file under a separator that may turn out to be empty, which only matters when
there is a line to cut. -/
def ingestBy (fields : List Field) (separator : String) (firstRow : Int) (lines : List String) :
    Except Failure (List Record) :=
  match lines, Separator.ofString? separator with
  | [], _ => .ok []
  | _, none => .error .emptySeparator
  | lines, some p => (ingest fields p firstRow lines).mapError .fault

end RowLoader.Source
