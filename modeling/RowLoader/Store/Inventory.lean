import RowLoader.Store.Table

/-!
The inventory of a store: a table that lists its tables and their indexes. It can be read like any
other table, under two names, and it cannot be changed.
-/

namespace RowLoader

namespace Store

def inventoryName : String := "sqlite_master"

/-- The first name of the inventory of what lasts as long as a connection; that is always empty. -/
def temporaryInventoryName : String := "sqlite_temp_master"

/-- The names of inventories, each with the first name of its inventory. -/
def inventoryNames : List (String × String) :=
  [(inventoryName, inventoryName), ("sqlite_schema", inventoryName),
    (temporaryInventoryName, temporaryInventoryName),
    ("sqlite_temp_schema", temporaryInventoryName)]

/-- The columns of an inventory: what an entry is, its name, its table, where it is kept, and the text
that made it. -/
def inventoryColumns : List Column :=
  [⟨"type", .text, .free, false, none⟩, ⟨"name", .text, .free, false, none⟩,
    ⟨"tbl_name", .text, .free, false, none⟩, ⟨"rootpage", .number, .free, false, none⟩,
    ⟨"sql", .text, .free, false, none⟩]

structure Entry where
  sort : String
  name : String
  definition : Option String

/-- The indexes that come with unique columns, by number. -/
def Table.numberedIndexes (t : Table) : List Entry :=
  ((t.columns.filter (·.unique)).zipIdx 1).map fun c =>
    ⟨"index", "sqlite_autoindex_" ++ t.name ++ "_" ++ toString c.2, none⟩

/-- What a table adds to the inventory: itself, its numbered indexes, and those with names. -/
def Table.entries (t : Table) : List Entry :=
  ⟨"table", t.name, some t.definition⟩ :: t.numberedIndexes
    ++ t.indexes.map fun index => ⟨"index", index.1, some index.2⟩

/-- The row of an entry of a table. Entries are numbered from 1 and kept from the second page on. -/
def inventoryRow (entry : (Table × Entry) × Nat) : Row :=
  ⟨entry.2, [.text entry.1.2.sort, .text entry.1.2.name, .text entry.1.1.name, .int (entry.2 + 1),
    (entry.1.2.definition.map Cell.text).getD .null]⟩

/-- The inventory of a store, its tables in the order in which they were made. -/
def inventory (s : Store) : Table :=
  { name := inventoryName, columns := inventoryColumns
    rows := ((s.tables.flatMap fun t => t.entries.map (t, ·)).zipIdx 1).map inventoryRow }

def inventoryNamed? (name : String) : Option String :=
  (inventoryNames.find? (fun n => Text.sameName n.1 name)).map (·.2)

/-- A table to read, under its name: one of the store, or an inventory. -/
def readable? (s : Store) (name : String) : Option Table :=
  (s.table? name).orElse fun _ => (inventoryNamed? name).map fun first =>
    if first = inventoryName then s.inventory
    else { s.inventory with name := first, rows := [] }

/-- Why a name that is no table of the store cannot be written to. -/
def notWritable (name : String) : StoreFault :=
  match inventoryNamed? name with
  | some first => .readOnly first
  | none => .noSuchTable name

/-- The cells of a table under some of its columns, or all of them, row by row. The columns are
answered with their declared names. -/
def contents (s : Store) (table : String) (names : Option (List String)) :
    Except StoreFault (List String × List (List Cell)) :=
  match s.readable? table with
  | none => .error (.noSuchTable table)
  | some t => do
    let names := names.getD (t.columns.map (·.name))
    let slots ← names.mapM fun name =>
      match t.slot? name with
      | none => .error (.noSuchColumn name)
      | some slot => .ok slot
    return (slots.map t.slotName, t.rows.map fun r => slots.map r.read)

end Store

end RowLoader
