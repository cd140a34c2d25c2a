import RowLoader.Dictionary.Schema
import RowLoader.Text.Blank
import RowLoader.Text.Split

/-!
Import templates: which tab, hence which table, an import writes to, the header where the files have
none of their own, and the client and organization for the rows that are inserted.
-/

namespace RowLoader.Dictionary

open RowLoader.Store RowLoader.Text RowLoader.Calendar

/-- A stored import template. Client, organization and window are numbers as a rule, but the store
keeps what it was given. -/
structure Template where
  id : Int
  name : String
  description : String
  client : Value
  org : Value
  window : Value
  tab : Option Int
  header : Option String
  uuid : String
  created : Option Timestamp
deriving Repr, DecidableEq

namespace Template

def momentOf : Cell → Except Failure (Option Timestamp)
  | .null => .ok none
  | .text s =>
    match Timestamp.read s.toList with
    | .ok t => .ok (some t)
    | .error f => .error (.badTimestamp f.message)
  | _ => .error .notATimestamp

/-- The template that a row holds. Its times must be readable, also that of its last change. -/
def ofRow (s : Store) (r : Row) : Except Failure Template := do
  let text := fun column => textOf s templateTable column r
  let value := fun column => (cellOf s templateTable column r).value
  let created ← momentOf (cellOf s templateTable "Created" r)
  let _ ← momentOf (cellOf s templateTable "Updated" r)
  return { id := r.id, name := text "Name", description := text "Description"
           client := value "AD_Client_ID", org := value "AD_Org_ID", window := value "AD_Window_ID"
           tab := intOf? s templateTable "AD_Tab_ID" r
           header := (cellOf s templateTable "AIT_HeaderCSV" r).text?
           uuid := text "UUID", created }

/-- The tokens of the stored header, always separated by commas; a blank header is none. -/
def tokens (header : Option String) : Option (List String) :=
  match header with
  | none => none
  | some h =>
    if allBlank h then none else some ((split .comma h.toList).map String.ofList)

def createdText (t : Template) : String :=
  match t.created with
  | none => ""
  | some stamp => stamp.text 'T'

end Template

def isTemplateId (id : Option Int) : Bool :=
  id.any (0 < ·)

def template? (s : Store) (id : Option Int) : Except Failure (Option Template) :=
  match id with
  | none => .ok none
  | some n =>
    if n ≤ 0 then .ok none
    else if !fitsInteger n then .error .integerRange
    else
      match (rowsOf s templateTable).find? (fun r => r.id = n) with
      | none => .ok none
      | some r => (Template.ofRow s r).map some

/-- The rows of the templates in use, by name; rows of one name stay in the order of their ids. -/
def activeRows (s : Store) : List Row :=
  ((rowsOf s templateTable).filter fun r =>
      cellOf s templateTable "IsActive" r == .text "Y").mergeSort
    (fun a b => textOf s templateTable "Name" a ≤ textOf s templateTable "Name" b)

/-- A page of a list: a negative offset counts as 0; without a limit, or with a negative one, the page
goes to the end. -/
def page {α : Type} (limit : Option Int) (offset : Int) (rows : List α) : List α :=
  let rest := rows.drop offset.toNat
  match limit with
  | none => rest
  | some limit => if limit < 0 then rest else rest.take limit.toNat

end RowLoader.Dictionary
