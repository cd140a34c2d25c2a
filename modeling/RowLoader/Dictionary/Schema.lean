import RowLoader.Store.Inventory

/-!
The tables that describe an application: its tables, tabs, columns and sequences, and the templates
that imports are stored as. They live in the same store as the tables they describe.
-/

namespace RowLoader.Dictionary

open RowLoader.Store

def tableTable : String := "AD_Table"
def tabTable : String := "AD_Tab"
def columnTable : String := "AD_Column"
def sequenceTable : String := "AD_Sequence"
def templateTable : String := "AIT_ImportTemplate"

structure Declared where
  type : String
  column : Column

def integers (name : String) (duty : Duty) : Declared :=
  ⟨"INTEGER", { name, affinity := .number, duty }⟩

def texts (name : String) (length : Nat) (duty : Duty) : Declared :=
  ⟨s!"VARCHAR({length})", { name, affinity := .text, duty }⟩

def moments (name : String) : Declared :=
  ⟨"DATETIME", { name, affinity := .number, duty := .free }⟩

def Declared.distinct (d : Declared) : Declared :=
  { d with column := { d.column with unique := true } }

def Declared.referringTo (d : Declared) (parent : String) : Declared :=
  { d with column := { d.column with refersTo := some parent } }

def inQuotes (name : String) : String :=
  "\"" ++ name ++ "\""

def keyColumn (table : String) : String :=
  table ++ "_ID"

def Declared.text (d : Declared) : String :=
  inQuotes d.column.name ++ " " ++ d.type ++ if d.column.duty = .free then "" else " NOT NULL"

/-- The rules of a table that stand behind its columns; the last argument ends those that refer to
another table. -/
def rules (columns : List Declared) (ending : String) : List String :=
  (columns.filter (·.column.duty = .key)).map
      (fun d => "PRIMARY KEY (" ++ inQuotes d.column.name ++ ")")
    ++ (columns.filter (·.column.unique)).map
      (fun d => "UNIQUE (" ++ inQuotes d.column.name ++ ")")
    ++ columns.filterMap fun d => d.column.refersTo.map fun parent =>
      "FOREIGN KEY(" ++ inQuotes d.column.name ++ ") REFERENCES " ++ inQuotes parent ++ " ("
        ++ inQuotes (keyColumn parent) ++ ")" ++ ending

/-- A table without rows: a key column and then others. -/
def schema (name : String) (others : List Declared) (ending : String := "") : Table :=
  let columns := integers (keyColumn name) .key :: others
  { name, columns := columns.map (·.column), rows := []
    definition := "CREATE TABLE " ++ inQuotes name ++ " (\n\t"
      ++ ", \n\t".intercalate (columns.map (·.text) ++ rules columns ending) ++ "\n)" }

/-- An index over columns of a table, by name with the text that makes it. Only names with capital
letters need quotes. -/
def index (name table : String) (columns : List String) : String × String :=
  let shown := if name.any Char.isUpper then inQuotes name else name
  (name, "CREATE INDEX " ++ shown ++ " ON " ++ inQuotes table ++ " ("
    ++ ", ".intercalate (columns.map inQuotes) ++ ")")

/-- The dictionary without any entry, its tables in the order in which they are made. Tabs and columns
refer to tables, templates to tabs, and no two tables have the same name. -/
def emptyTables : List Table :=
  [ schema tableTable
      [(texts "TableName" 40 .required).distinct, texts "Name" 60 .free, texts "IsActive" 1 .free],
    { schema sequenceTable
        [texts "Name" 60 .required, texts "IsTableID" 1 .free, integers "CurrentNext" .required,
          integers "IncrementNo" .required] with
      indexes := [index "ix_AD_Sequence_Name" sequenceTable ["Name"]] },
    schema tabTable
      [(integers "AD_Table_ID" .free).referringTo tableTable, texts "Name" 60 .free],
    { schema columnTable
        [(integers "AD_Table_ID" .required).referringTo tableTable, texts "ColumnName" 40 .required,
          integers "AD_Reference_ID" .required, integers "FieldLength" .free, texts "IsKey" 1 .free]
        " ON DELETE CASCADE" with
      indexes := [index "ix_AD_Column_AD_Table_ID" columnTable ["AD_Table_ID"],
        index "ix_column_lookup" columnTable ["AD_Table_ID", "ColumnName"]] },
    schema templateTable
      [integers "AD_Client_ID" .required, integers "AD_Org_ID" .required, texts "Name" 60 .required,
        texts "Description" 255 .free, integers "AD_Window_ID" .free,
        (integers "AD_Tab_ID" .free).referringTo tabTable,
        ⟨"TEXT", { name := "AIT_HeaderCSV", affinity := .text, duty := .free }⟩,
        texts "UUID" 36 .free, texts "IsActive" 1 .free, moments "Created",
        integers "CreatedBy" .free, moments "Updated", integers "UpdatedBy" .free] ]

def emptyStore (now : Calendar.Timestamp := Calendar.Date.midnight ⟨1970, 1, 1⟩) : Store :=
  ⟨emptyTables, now⟩

def rowsOf (s : Store) (table : String) : List Row :=
  ((s.table? table).map (·.rows)).getD []

def cellOf (s : Store) (table column : String) (r : Row) : Cell :=
  match (s.table? table).bind (·.slot? column) with
  | some slot => r.read slot
  | none => .null

def textOf (s : Store) (table column : String) (r : Row) : String :=
  ((cellOf s table column r).text?).getD ""

def intOf? (s : Store) (table column : String) (r : Row) : Option Int :=
  (cellOf s table column r).int?

/-- Names as the dictionary compares them: the stored one with its ASCII letters in upper case, the
asked one in full upper case. -/
def namesAgree (stored asked : String) : Bool :=
  Text.asciiUpper stored == asked

end RowLoader.Dictionary
