import RowLoader.Dictionary.Schema
import RowLoader.Kind

/-!
Columns as the dictionary knows them: their kind and their length. Which row of the dictionary
describes a column is remembered once it was found or not found. What the row says is read once and
stays as it was read, until it is to be read again.
-/

namespace RowLoader.Dictionary

open RowLoader.Store RowLoader.Number

structure ColumnInfo where
  displayType : Cell
  length : Cell
deriving Repr, DecidableEq

/-- The column that a row of the dictionary describes belongs to a table of some name. -/
def belongsTo (s : Store) (askedTable : String) (r : Row) : Bool :=
  (rowsOf s tableTable).any fun t =>
    some t.id == intOf? s columnTable "AD_Table_ID" r
      && namesAgree (textOf s tableTable "TableName" t) askedTable

def infoOf (s : Store) (r : Row) : ColumnInfo :=
  { displayType := cellOf s columnTable "AD_Reference_ID" r
    length := cellOf s columnTable "FieldLength" r }

/-- The row for a column of two names in full upper case: the first that agrees with both. -/
def find? (s : Store) (askedTable askedColumn : String) : Option Row :=
  (rowsOf s columnTable).find? fun r =>
    belongsTo s askedTable r && namesAgree (textOf s columnTable "ColumnName" r) askedColumn

/-- The key of a column: both names in full upper case. -/
abbrev ColumnKey := String × String

def columnKey (table column : String) : ColumnKey :=
  (Text.upper table, Text.upper column)

/-- What is remembered of columns: the row for each one that was asked for, found or not found, and
what these rows said when they were read. A row without a reading is to be read again. -/
structure Recall where
  found : List (ColumnKey × Option Int)
  readings : List (Int × Option ColumnInfo)
deriving Repr, DecidableEq

namespace Recall

def empty : Recall :=
  ⟨[], []⟩

/-- What a row said, as far as it need not be read again. -/
def reading? (m : Recall) (id : Int) : Option ColumnInfo :=
  (m.readings.lookup id).join

/-- Note what a row says, unless a reading of it still counts. -/
def note (m : Recall) (id : Int) (info : ColumnInfo) : Recall :=
  if (m.reading? id).isSome then m else { m with readings := (id, some info) :: m.readings }

/-- All rows are to be read again. -/
def expire (m : Recall) : Recall :=
  { m with readings := m.readings.map fun r => (r.1, none) }

/-- Keep the readings of the rows that were found before, as they are now. -/
def resume (before after : Recall) : Recall :=
  { before with
    readings := after.readings.filter fun r => before.found.any (fun f => f.2 = some r.1) }

/-- It is remembered whether the dictionary lists a column. -/
def knows (m : Recall) (table column : String) : Bool :=
  (m.found.lookup (columnKey table column)).isSome

/-- It is remembered what the dictionary says of a column. -/
def knowsInfo (m : Recall) (table column : String) : Bool :=
  match m.found.lookup (columnKey table column) with
  | none => false
  | some none => true
  | some (some id) => (m.reading? id).isSome

end Recall

/-- Find the row for a column: a remembered answer counts, any other is looked up and remembered. -/
def locate (s : Store) (m : Recall) (table column : String) : Option Int × Recall :=
  let key := columnKey table column
  match m.found.lookup key with
  | some answer => (answer, m)
  | none =>
    match find? s key.1 key.2 with
    | none => (none, { m with found := (key, none) :: m.found })
    | some r =>
      (some r.id, { m with found := (key, some r.id) :: m.found }.note r.id (infoOf s r))

/-- What a row says, by its reading or by reading it now. -/
def consult (s : Store) (m : Recall) (id : Int) : Option ColumnInfo × Recall :=
  match m.reading? id with
  | some info => (some info, m)
  | none =>
    match (rowsOf s columnTable).find? (fun r => r.id = id) with
    | some r => (some (infoOf s r), m.note id (infoOf s r))
    | none => (none, m)

def ask (s : Store) (m : Recall) (table column : String) : Option ColumnInfo × Recall :=
  match locate s m table column with
  | (some id, m) => consult s m id
  | (none, m) => (none, m)

/-- The kind of a column; one that the dictionary does not know is text. -/
def kindOf (info : Option ColumnInfo) : Kind :=
  Kind.ofDisplayType? (info.bind (·.displayType.int?))

/-- The greatest length of a text in a column; 0 stands for no limit, and so does a missing one. -/
def lengthOf (info : Option ColumnInfo) : Cell :=
  match info.map ColumnInfo.length with
  | none | some .null | some (.text "") => .int 0
  | some limit => limit

/-- A text of some length is too long for a limit; a text is no limit that a length compares with. -/
def exceeds (length : Nat) : Cell → Except Failure Bool
  | .null => .ok false
  | .int limit => .ok (decide (limit ≠ 0 ∧ limit < length))
  | .real limit => .ok (limit.lessThan length)
  | .text s => if s.isEmpty then .ok false else .error .textAsLimit

/-- The name of the table that a tab shows. A tab number of 0 is no tab. -/
def tableOfTab (s : Store) (tab : Option Int) : Except Failure (Option String) :=
  match tab with
  | none => .ok none
  | some n =>
    if n = 0 then .ok none
    else if !fitsInteger n then .error .integerRange
    else .ok <| do
      let row ← (rowsOf s tabTable).find? (fun r => r.id = n)
      let id ← intOf? s tabTable "AD_Table_ID" row
      let table ← (rowsOf s tableTable).find? (fun r => r.id = id)
      some (textOf s tableTable "TableName" table)

end RowLoader.Dictionary
