import RowLoader.Resolve
import RowLoader.Write

/-!
A run: all lines of a file through one template. The whole file is read and examined before the first
row is written; then every row is resolved and written in turn.
-/

namespace RowLoader.Run

open RowLoader.Header RowLoader.Source RowLoader.Dictionary

def updateOption : String := "U"

/-- The mode that an option asks for: a blank one inserts, the letter U in either case updates. -/
def modeOf (option : Option String) : Except Fault Action :=
  match option with
  | none => .ok .insert
  | some s =>
    if Text.allBlank s then .ok .insert
    else if Text.upper (Text.trim s) = updateOption then .ok .update
    else .error (.setup (.unknownMode s))

def checkMode : Action → Except Fault Unit
  | .insert => .ok ()
  | .update => .ok ()
  | mode => .error (.setup (.unknownMode mode.name))

def tableOf (template : Template) : Work String := do
  match ← Work.tableOfTab template.tab with
  | none => Work.ofFault (.error (.setup (.noTable template.tab)))
  | some table => return table

/-- What a run is to do with a file: the fields of its header, the number of its first data line, and
its data lines. -/
structure Plan where
  fields : List Field
  firstRow : Int
  data : List String
  separator : Text.Separator
deriving Repr, DecidableEq

/-- The plan for some lines, of which there must be one. A stored header counts before the first line,
which is data then. -/
def plan (header : Option String) : List String → Except Fault Plan
  | [] => .error (.emptySource "<no lines>")
  | line :: rest =>
    let separator := separatorOf line
    match Template.tokens header with
    | some tokens =>
      .ok ⟨Header.read (tokens.map some), 1, line :: rest, separator⟩
    | none => .ok ⟨Header.read ((cellsOf separator line).map some), 2, rest, separator⟩

/-- Resolve and write one record. -/
def writeRecord (table : String) (template : Template) (context : Context) (mode : Action)
    (fields : List Field) (record : Record) : Work Outcome := do
  let columns ← Resolve.resolveRow table record [] fields
  match mode with
  | .update => Write.update table (some template) context fields columns record.row
  | _ => Write.insert table (some template) context columns record.row

def writeRecords (table : String) (template : Template) (context : Context) (mode : Action)
    (fields : List Field) : Report → List Record → Work Report
  | report, [] => return report
  | report, record :: rest => do
    let outcome ← writeRecord table template context mode fields record
    writeRecords table template context mode fields (report.add outcome) rest

/-- Import lines into the table of a template. -/
def importLines (template : Template) (context : Context) (mode : Action) (lines : List String) :
    Work Report :=
  Work.withFreshRecall do
    let table ← tableOf template
    let p ← Work.ofFault (plan template.header lines)
    let records ← Work.ofFault (ingest p.fields p.separator p.firstRow p.data)
    let report : Report :=
      { Report.empty with table := some table, mode, totalRows := records.length }
    writeRecords table template context mode p.fields report records

/-- Import lines through a template that may be missing, in a mode that may be none. -/
def runLines (template : Option Template) (context : Context) (mode : Action)
    (lines : List String) : Work Report := do
  match template with
  | none => Work.ofFault (.error (.setup .noTemplate))
  | some template =>
    Work.ofFault (checkMode mode)
    importLines template context mode lines

structure File where
  path : String
  content : Content
deriving Repr, DecidableEq

def File.lines (file : File) : Except Failure (List String) :=
  if file.content = .tooLong then .error (.longPath file.path)
  else (readLines file.path file.content).mapError .fault

def runFile (templateId : Option Int) (file : File) (mode : Option String) (context : Context) :
    Work Report := do
  match ← Work.template? templateId with
  | none => Work.ofFault (.error (.setup (.unknownTemplate templateId)))
  | some template =>
    let mode ← Work.ofFault (modeOf mode)
    let lines ← Work.ofExcept file.lines
    importLines template context mode lines

end RowLoader.Run
