import RowLoader.Store.Cell
import RowLoader.Text.Case
import RowLoader.Fault

/-!
Tables. Names of tables and columns agree up to the case of ASCII letters. Every row has an integer
id, by which the rows are ordered; a key column is another name for it.
-/

namespace RowLoader.Store

open RowLoader.Text

/-- What a column demands: nothing, a value other than null, or to be the id of the row. -/
inductive Duty where
  | free
  | required
  | key
deriving Repr, DecidableEq

/-- A column. Where it is unique, no two rows have the same value in it, nulls apart; where it refers to
a table, every value in it is the id of a row there, nulls apart. -/
structure Column where
  name : String
  affinity : Affinity
  duty : Duty
  unique : Bool := false
  refersTo : Option String := none
deriving Repr, DecidableEq

/-- A row, with one cell for each column of its table; the cell of a key column is not used. -/
structure Row where
  id : Int
  cells : List Cell
deriving Repr, DecidableEq

/-- A table. The text that made it and its indexes, by name with the text that made each, are kept for
the inventory alone. -/
structure Table where
  name : String
  columns : List Column
  rows : List Row
  definition : String := ""
  indexes : List (String × String) := []
deriving Repr, DecidableEq

inductive Slot where
  | id
  | cell (i : Nat)
deriving Repr, DecidableEq

/-- The names that mean the id of a row in every table that has no such column. -/
def idNames : List String := ["rowid", "oid", "_rowid_"]

namespace Table

/-- Where a name leads. -/
def slot? (t : Table) (name : String) : Option Slot :=
  match t.columns.findIdx? (fun c => sameName c.name name) with
  | some i =>
    match t.columns[i]? with
    | some c => if c.duty = .key then some .id else some (.cell i)
    | none => some (.cell i)
  | none => if idNames.any (sameName · name) then some .id else none

def keyName (t : Table) : String :=
  ((t.columns.find? (fun c => c.duty = .key)).map (·.name)).getD "rowid"

def slotName (t : Table) : Slot → String
  | .id => t.keyName
  | .cell i => ((t.columns[i]?).map (·.name)).getD ""

def affinity (t : Table) : Slot → Affinity
  | .id => .number
  | .cell i => ((t.columns[i]?).map (·.affinity)).getD .number

def row? (t : Table) (id : Int) : Option Row :=
  t.rows.find? (fun r => r.id = id)

def greatestId : Int := Int.pow 2 63 - 1

/-- Where to look for an id once the greatest one is taken. -/
def middleId : Int := Int.pow 2 61

/-- The first ids from the middle on, more than there are rows. -/
def middleIds (t : Table) : List Int :=
  (List.range (t.rows.length + 1)).map fun k : Nat => middleId + k

/-- The id of a new row that names none: one more than the greatest in the table, or one in the middle
that is free if there is none. -/
def nextId (t : Table) : Int :=
  match t.rows.getLast? with
  | none => 1
  | some r =>
    if r.id < greatestId then r.id + 1
    else (t.middleIds.find? fun id => (t.row? id).isNone).getD middleId

end Table

def Row.read (r : Row) : Slot → Cell
  | .id => .int r.id
  | .cell i => r.cells.getD i .null

def insertRow (row : Row) : List Row → List Row
  | [] => [row]
  | r :: rest => if row.id < r.id then row :: r :: rest else r :: insertRow row rest

/-- A condition on a slot: it equals a bound cell. -/
abbrev Conditions := List (Slot × Cell)

def Table.meets (t : Table) (conditions : Conditions) (r : Row) : Bool :=
  conditions.all (fun c => (r.read c.1).equals (t.affinity c.1) c.2)

/-- The rows that meet conditions, in the order of their ids. -/
def Table.select (t : Table) (conditions : Conditions) : List Row :=
  t.rows.filter (t.meets conditions)

end RowLoader.Store

namespace RowLoader

/-- A store: its tables, found by name, and the moment that its clock shows, in universal time. The clock
stands still while the store is worked on. -/
structure Store where
  tables : List Store.Table
  now : Calendar.Timestamp
deriving Repr, DecidableEq

namespace Store

def table? (s : Store) (name : String) : Option Table :=
  s.tables.find? (fun t => Text.sameName t.name name)

def replaceIn (t : Table) : List Table → List Table
  | [] => []
  | u :: rest => if Text.sameName u.name t.name then t :: rest else u :: replaceIn t rest

def replaceTable (s : Store) (t : Table) : Store :=
  { s with tables := replaceIn t s.tables }

def withRows (s : Store) (t : Table) (rows : List Row) : Store :=
  s.replaceTable { t with rows := rows }

end Store

end RowLoader
