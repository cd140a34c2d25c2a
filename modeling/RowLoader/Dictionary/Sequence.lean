import RowLoader.Dictionary.Schema

/-!
Sequences: for a table, the next primary key to hand out and the step to the one after it.
-/

namespace RowLoader.Dictionary

open RowLoader.Store RowLoader.Number

/-- The row of the sequence of a table: the first that hands out keys and has the table's name. -/
def sequenceRow? (s : Store) (table : String) : Option Row :=
  (rowsOf s sequenceTable).find? fun r =>
    cellOf s sequenceTable "IsTableID" r == .text "Y"
      && namesAgree (textOf s sequenceTable "Name" r) (Text.upper table)

def currentNext (s : Store) (r : Row) : Cell :=
  cellOf s sequenceTable "CurrentNext" r

/-- The step of a sequence; a step of 0 counts as 1, and so does a missing one. -/
def step (s : Store) (r : Row) : Cell :=
  match cellOf s sequenceTable "IncrementNo" r with
  | .null | .int 0 | .text "" => .int 1
  | c => c

/-- One step on from a key. Numbers add up, texts are joined, and nothing else can be added. -/
def advance : Cell → Cell → Except Failure Cell
  | .int a, .int b => .ok (.int (a + b))
  | .int a, .real y => .ok (cellOfReal ((Binary64.ofInt a).add y))
  | .real x, .int b => .ok (cellOfReal (x.add (Binary64.ofInt b)))
  | .real x, .real y => .ok (cellOfReal (x.add y))
  | .text a, .text b => .ok (.text (a ++ b))
  | a, b => .error (.notAddable a.sort b.sort)

/-- Put a next key into the sequence of a row. It is required, and an integer has to fit. -/
def setNext (s : Store) (r : Row) (next : Cell) : Except Failure Store :=
  match s.table? sequenceTable with
  | none => .error (.store (.noSuchTable sequenceTable))
  | some t =>
    match t.slot? "CurrentNext", next with
    | none, _ => .error (.store (.noSuchColumn "CurrentNext"))
    | some slot, .null => .error (.store (.missingValue t.name (t.slotName slot)))
    | some slot, .int n =>
      if fitsInteger n then .ok (s.withRows t (t.rows.map (assign t slot))) else .error .integerRange
    | some slot, _ => .ok (s.withRows t (t.rows.map (assign t slot)))
where
  assign (t : Table) (slot : Slot) (q : Row) : Row :=
    match slot with
    | .id => q
    | .cell i =>
      if q.id = r.id then { q with cells := q.cells.set i (next.stored (t.affinity slot)) } else q

/-- Hand out the next key of a table and advance its sequence by one step. Without a sequence there
is no key and nothing changes. -/
def nextKey (s : Store) (table : String) : Except Failure (Option Value × Store) :=
  match sequenceRow? s table with
  | none => .ok (none, s)
  | some r => do
    let key := currentNext s r
    let next ← advance key (step s r)
    return (some key.value, ← setNext s r next)

end RowLoader.Dictionary
