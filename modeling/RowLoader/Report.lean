/-!
The result of an import: what was done for each row, and the totals.
-/

namespace RowLoader

inductive Action where
  | insert
  | update
  | skip
  | other (name : String)
deriving Repr, DecidableEq

namespace Action

def name : Action → String
  | .insert => "insert"
  | .update => "update"
  | .skip => "skip"
  | .other name => name

def ofName (name : String) : Action :=
  if name = "insert" then .insert
  else if name = "update" then .update
  else if name = "skip" then .skip
  else .other name

end Action

/-- What was done with one row, and how many records it affected. -/
structure Outcome where
  row : Int
  action : Action
  affected : Int
  detail : String
deriving Repr, DecidableEq

/-- The account of a run. -/
structure Report where
  table : Option String
  mode : Action
  totalRows : Int
  inserted : Int
  updated : Int
  skipped : Int
  outcomes : List Outcome
deriving Repr, DecidableEq

namespace Report

def empty : Report :=
  ⟨none, .insert, 0, 0, 0, 0, []⟩

/-- Enter an outcome: affected records count as inserted or updated; any other outcome counts as one
row skipped. -/
def add (r : Report) (o : Outcome) : Report :=
  let r := { r with outcomes := r.outcomes ++ [o] }
  match o.action with
  | .insert => { r with inserted := r.inserted + o.affected }
  | .update => { r with updated := r.updated + o.affected }
  | _ => { r with skipped := r.skipped + 1 }

def addAll (r : Report) (outcomes : List Outcome) : Report :=
  outcomes.foldl add r

def summary (r : Report) : String :=
  s!"Import finished. Inserted={r.inserted}, Updated={r.updated}"

end Report

end RowLoader
