import RowLoader.Work
import RowLoader.Context
import RowLoader.Precedence
import RowLoader.Dictionary.Template

/-!
System columns. A row to be inserted is completed by its primary key, client, organization, activity,
creation and change, and a unique id, each only where the row has no value for it under any spelling.
-/

namespace RowLoader.Complete

open RowLoader.Dictionary RowLoader.Precedence

def clientColumn : String := "AD_Client_ID"
def orgColumn : String := "AD_Org_ID"
def activeColumn : String := "IsActive"
def uniqueIdColumn : String := "UUID"

/-- The name of a row that a name means: itself if the row has it, else the first that agrees with
it in upper case. -/
def nameIn? (columns : Columns) (name : String) : Option String :=
  if name ∈ columns.names then some name
  else columns.names.find? (fun n => Text.upper n = Text.upper name)

/-- The value that a row has for a name under any spelling, null if it has none. -/
def valueIn (columns : Columns) (name : String) : Value :=
  match nameIn? columns name with
  | some n => columns.getD n
  | none => .null

/-- Set a value where the row has none, under the spelling of the row. -/
def putIfAbsent (columns : Columns) (name : String) (value : Value) : Columns :=
  if valueIn columns name = .null then columns.put ((nameIn? columns name).getD name) value
  else columns

def keyColumn (table : String) : String :=
  table ++ "_ID"

def withKey (table : String) (columns : Columns) : Work Columns :=
  if valueIn columns (keyColumn table) = .null then do
    let key ← Work.nextKey table
    match key with
    | none => Work.ofFault (.error (.noSequence (.text table)))
    | some key => return putIfAbsent columns (keyColumn table) key
  else return columns

/-- Complete client and organization: the first positive one of the template's, the row's own and
the context's. -/
def withOwner (template : Template) (context : Context) (columns : Columns) : Columns :=
  let columns := putIfAbsent columns clientColumn
    (.whole (firstPositive [template.client, valueIn columns clientColumn, .whole context.client]))
  putIfAbsent columns orgColumn
    (.whole (firstPositive [template.org, valueIn columns orgColumn, .whole context.org]))

def needed (template : Option Template) : Work Template :=
  match template with
  | none => Work.ofExcept (.error .templateMissing)
  | some t => return t

def withAudit (context : Context) (columns : Columns) : Columns :=
  let columns := putIfAbsent columns "Created" (.moment context.now)
  let columns := putIfAbsent columns "CreatedBy" (.whole context.user)
  let columns := putIfAbsent columns "Updated" (.moment context.now)
  putIfAbsent columns "UpdatedBy" (.whole context.user)

/-- Set a value where the row has none and the dictionary lists the column. -/
def putIfListed (table name : String) (value : Value) (columns : Columns) : Work Columns := do
  let listed ← Work.hasColumn table name
  return if listed then putIfAbsent columns name value else columns

/-- Complete a row. A unique id is drawn for every row, used or not. -/
def complete (table : String) (template : Option Template) (context : Context)
    (columns : Columns) : Work Columns := do
  let columns ← withKey table columns
  let template ← needed template
  let columns ← putIfListed table activeColumn (.text "Y") (withOwner template context columns)
  let id ← Work.drawId
  return putIfAbsent (withAudit context columns) uniqueIdColumn (.text id)

end RowLoader.Complete
