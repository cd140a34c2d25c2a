import RowLoader.Complete
import RowLoader.Header
import RowLoader.Report

/-!
Writing a row. Inserting adds one record, completed by the system columns. Updating changes the
records that the key fields of the header name, or without key fields all records of one client; the
time and the user of the change are added where the dictionary lists them.
-/

namespace RowLoader.Write

open RowLoader.Header RowLoader.Dictionary RowLoader.Store RowLoader.Precedence RowLoader.Complete

def insert (table : String) (template : Option Template) (context : Context) (columns : Columns)
    (row : Int) : Work Outcome := do
  let columns ← complete table template context columns
  let statement ← Work.ofFault (Statement.makeInsert table columns)
  let affected ← Work.execute statement
  return ⟨row, .insert, affected, ""⟩

def predicate (conditions : List (String × Value)) : String :=
  " AND ".intercalate (conditions.map (fun c => s!"{c.1}={c.2.display}"))

/-- The key fields and the values that a row has for their targets. -/
def keyConditions (keyFields : List Field) (columns : Columns) : List (String × Value) :=
  keyFields.map (fun f => (f.target, columns.getD f.target))

def withoutKeys (keyFields : List Field) (columns : Columns) : Columns :=
  columns.filter (fun c => !(keyFields.any (fun f => f.target = c.1)))

/-- The client whose records an update without key fields changes. -/
def bulkConditions (template : Template) (context : Context) : List (String × Value) :=
  [(clientColumn, .whole (firstPositive [template.client, .whole context.client]))]

def withChange (table : String) (context : Context) (sets : Columns) : Work Columns := do
  let sets ← putIfListed table "Updated" (.moment context.now) sets
  putIfListed table "UpdatedBy" (.whole context.user) sets

def change (table : String) (context : Context) (sets : Columns)
    (conditions : List (String × Value)) : Work Nat := do
  let sets ← withChange table context sets
  let statement ← Work.ofFault (Statement.makeUpdate table sets conditions)
  Work.execute statement

def notFound (row : Int) (key : Field) (conditions : List (String × Value)) : Fault :=
  .ofRow ⟨row, some key.position, some key.label, .recordNotFound (.text (predicate conditions))⟩

def nothingToUpdate (row : Int) : Outcome :=
  ⟨row, .skip, 0, "nothing to update"⟩

/-- Update the records that the key fields name. A null key names none. -/
def updateKeyed (table : String) (context : Context) (first : Field) (keyFields : List Field)
    (columns : Columns) (row : Int) : Work Outcome := do
  let conditions := keyConditions keyFields columns
  let sets := withoutKeys keyFields columns
  if conditions.any (fun c => c.2 = .null) then
    Work.ofFault (.error (notFound row first conditions))
  else if sets.isEmpty then return nothingToUpdate row
  else
    let affected ← change table context sets conditions
    if affected = 0 then Work.ofFault (.error (notFound row first conditions))
    else return ⟨row, .update, affected, predicate conditions⟩

def updateBulk (table : String) (template : Option Template) (context : Context)
    (columns : Columns) (row : Int) : Work Outcome := do
  let conditions := bulkConditions (← needed template) context
  if columns.isEmpty then return nothingToUpdate row
  else
    let affected ← change table context columns conditions
    return ⟨row, .update, affected, predicate conditions⟩

def update (table : String) (template : Option Template) (context : Context) (fields : List Field)
    (columns : Columns) (row : Int) : Work Outcome :=
  match keys fields with
  | [] => updateBulk table template context columns row
  | first :: rest => updateKeyed table context first (first :: rest) columns row

end RowLoader.Write
