import RowLoader.Report
import RowLoader.Fault
import RowLoader.Header
import RowLoader.Dictionary.Template

/-!
Answers as structured data: reports, faults, templates and header fields as records of named parts.
-/

namespace RowLoader

open RowLoader.Dictionary

inductive Json where
  | null
  | bool (b : Bool)
  | number (n : Int)
  | real (x : Number.Binary64)
  | text (s : String)
  | list (items : List Json)
  | record (parts : List (String × Json))

namespace Json

def ofInt? : Option Int → Json
  | none => .null
  | some n => .number n

def ofText? : Option String → Json
  | none => .null
  | some s => .text s

/-- A detail of a fault: null, flags, integers and texts as they are, any other value in words. -/
def ofDetail : Value → Json
  | .null => .null
  | .flag b => .bool b
  | .whole n => .number n
  | v => .text v.display

def ofOutcome (o : Outcome) : Json :=
  .record [("row", .number o.row), ("action", .text o.action.name), ("affected", .number o.affected),
    ("detail", .text o.detail)]

def ofReport (r : Report) : Json :=
  .record [("table", ofText? r.table), ("mode", .text r.mode.name),
    ("total_rows", .number r.totalRows), ("inserted", .number r.inserted),
    ("updated", .number r.updated), ("skipped", .number r.skipped), ("summary", .text r.summary),
    ("outcomes", .list (r.outcomes.map ofOutcome))]

/-- The details of a fault, with its cause and its problems where there are several. -/
def detailsOf (f : Fault) : List (String × Json) :=
  f.details.map (fun d => (d.1, ofDetail d.2))
    ++ (match f.cause with
      | none => []
      | some cause => [("cause", .text cause)])
    ++ (match f.problemMessages with
      | none => []
      | some messages => [("problems", .list (messages.map .text))])

def ofFault (f : Fault) : Json :=
  .record (("kind", .text f.kind) :: ("message", .text f.message) :: detailsOf f)

def ofStored : Value → Json
  | .null => .null
  | .flag b => .bool b
  | .whole n => .number n
  | .real x => .real x
  | v => .text v.display

/-- The client or organization of a template; 0 where there is none. -/
def ofOwner (v : Value) : Json :=
  if v = .null ∨ v = .text "" then .number 0 else ofStored v

def templateParts (t : Template) : List (String × Json) :=
  [("id", .number t.id), ("name", .text t.name), ("description", .text t.description),
    ("client_id", ofOwner t.client), ("org_id", ofOwner t.org), ("window_id", ofStored t.window),
    ("tab_id", ofInt? t.tab), ("header_csv", .text (t.header.getD "")), ("uuid", .text t.uuid),
    ("created", .text t.createdText)]

def ofTemplate (t : Template) : Json :=
  .record (templateParts t)

def ofField (f : Header.Field) : Json :=
  .record [("column", .number f.position), ("token", .text f.token),
    ("path", .list (f.path.map .text)), ("target_column", .text f.target),
    ("lookup_column", ofText? f.lookup), ("lookup_table", ofText? f.lookupTable),
    ("is_key", .bool f.isKey)]

end Json

end RowLoader
