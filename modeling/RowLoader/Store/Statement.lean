import RowLoader.Store.Table
import RowLoader.Store.Reserved
import RowLoader.Store.Inventory

/-!
Statements that write. A statement is data: a table, named values to store, and for an update named
values that pick the rows. It is rendered as text in which names stand as they are and every value
is a numbered parameter; executing it changes one table or fails and changes nothing. What has to hold
of the rows is tested in this order: values where they are required, the ids, the values that are
unique, and last the references between tables.
-/

namespace RowLoader.Store

open RowLoader.Identifier

/-- A writing statement. -/
inductive Statement where
  | insert (table : String) (columns : Columns)
  | update (table : String) (sets : Columns) (conditions : List (String × Value))
deriving Repr, DecidableEq

namespace Statement

/-- Every name of a row passes as an identifier, or the first that does not is the fault. -/
def checkNames : List String → Except Fault Unit
  | [] => .ok ()
  | name :: rest => do
    let _ ← checked (some name) none
    checkNames rest

/-- An insert that stores a row. The columns are tested before the table. -/
def makeInsert (table : String) (columns : Columns) : Except Fault Statement := do
  checkNames columns.names
  let _ ← checked (some table) none
  return .insert table columns

/-- An update that sets columns where all conditions hold. The columns are tested before the
table. -/
def makeUpdate (table : String) (sets : Columns) (conditions : List (String × Value)) :
    Except Fault Statement := do
  checkNames sets.names
  checkNames (conditions.map (·.1))
  let _ ← checked (some table) none
  return .update table sets conditions

/-- The names of the parameters of some values: a letter and a number from 0. -/
def parameterNames (letter : String) (count : Nat) : List String :=
  (List.range count).map (fun i => letter ++ toString i)

def assignments (names parameters : List String) : List String :=
  List.zipWith (fun name parameter => name ++ " = :" ++ parameter) names parameters

def render : Statement → String
  | .insert table columns =>
    "INSERT INTO " ++ table ++ " (" ++ ", ".intercalate columns.names ++ ") VALUES ("
      ++ ", ".intercalate ((parameterNames "v" columns.length).map (":" ++ ·)) ++ ")"
  | .update table sets conditions =>
    "UPDATE " ++ table ++ " SET "
      ++ ", ".intercalate (assignments sets.names (parameterNames "s" sets.length)) ++ " WHERE "
      ++ " AND ".intercalate
        (assignments (conditions.map (·.1)) (parameterNames "w" conditions.length))

/-- The parameters of a statement with their values, in the order of the text. -/
def parameters : Statement → List (String × Value)
  | .insert _ columns => (parameterNames "v" columns.length).zip columns.values
  | .update _ sets conditions =>
    (parameterNames "s" sets.length).zip sets.values
      ++ (parameterNames "w" conditions.length).zip (conditions.map (·.2))

def table : Statement → String
  | .insert table _ => table
  | .update table _ _ => table

def values (s : Statement) : List Value :=
  s.parameters.map (·.2)

end Statement

abbrev Assignments := List (Slot × Cell)

def slots (t : Table) (unknown : String → StoreFault) :
    List (String × Value) → Except StoreFault Assignments
  | [] => .ok []
  | (name, value) :: rest =>
    match t.slot? (bare name) with
    | none => .error (unknown (bare name))
    | some slot => do
      let others ← slots t unknown rest
      return (slot, bind value) :: others

/-- What a name means where an expression can stand: what each row holds in a slot, or one value. -/
inductive Operand where
  | held (slot : Slot)
  | fixed (c : Cell)
deriving Repr, DecidableEq

/-- A name means a column before it means truth, but after it means null or the present moment. -/
def Table.operand? (t : Table) (now : Calendar.Timestamp) (name : String) : Option Operand :=
  match literal? now name, t.slot? (bare name) with
  | some c, _ => some (.fixed c)
  | none, some slot => some (.held slot)
  | none, none => (constant? name).map .fixed

def Operand.read (r : Row) : Operand → Cell
  | .held slot => r.read slot
  | .fixed c => c

/-- A condition that no row meets. -/
def neverMet : Slot × Cell :=
  (.id, .null)

/-- What has to hold for an operand to equal a bound cell. One value equals it in every row or in none. -/
def Operand.conditions (bound : Cell) : Operand → Conditions
  | .held slot => [(slot, bound)]
  | .fixed c => if c.same bound then [] else [neverMet]

/-- The conditions that named values make; the first unknown name is the fault. -/
def conditionsOf (t : Table) (now : Calendar.Timestamp) :
    List (String × Cell) → Except StoreFault Conditions
  | [] => .ok []
  | (name, bound) :: rest =>
    match t.operand? now name with
    | none => .error (.noSuchColumn (bare name))
    | some operand => do
      let others ← conditionsOf t now rest
      return operand.conditions bound ++ others

def cellsBy (t : Table) (cellAt : Nat → Cell) : List Cell :=
  (List.range t.columns.length).map cellAt

/-- The first required column among the numbered ones that would be null. -/
def missing? (t : Table) (cellAt : Nat → Option Cell) : Option String :=
  ((List.range t.columns.length).find? fun i =>
      (t.columns[i]?).any (fun c => c.duty = .required) && cellAt i == some .null).bind
    fun i => (t.columns[i]?).map (·.name)

/-- The first cell that is assigned to a slot, null if there is none. -/
def firstAssigned (a : Assignments) (slot : Slot) : Cell :=
  (a.lookup slot).getD .null

def lastAssigned? (a : Assignments) (slot : Slot) : Option Cell :=
  a.reverse.lookup slot

/-- The cell of a new row in a column: the first that is assigned to it. -/
def newCell (t : Table) (a : Assignments) (i : Nat) : Cell :=
  (firstAssigned a (.cell i)).stored (t.affinity (.cell i))

/-- The cell that an update puts into a column: the last that is assigned to it, if there is one. -/
def setCell? (t : Table) (a : Assignments) (i : Nat) : Option Cell :=
  (lastAssigned? a (.cell i)).map (·.stored (t.affinity (.cell i)))

/-- The first unique column in which a given cell is taken, nulls apart. -/
def clash? (t : Table) (cellAt : Nat → Option Cell) (taken : Nat → Cell → Bool) : Option String :=
  ((List.range t.columns.length).find? fun i =>
      (t.columns[i]?).any (·.unique) && (cellAt i).any (fun c => c != .null && taken i c)).bind
    fun i => (t.columns[i]?).map (·.name)

def takenBesides (t : Table) (id : Int) (i : Nat) (c : Cell) : Bool :=
  t.rows.any fun q => q.id ≠ id && (q.read (.cell i)).same c

/-- Add a row. Of several values for a column the first counts, for the id the last; without an id
the row gets the next one. -/
def insertInto (t : Table) (a : Assignments) : Except StoreFault Table :=
  let cells := cellsBy t (newCell t a)
  match (((lastAssigned? a .id).getD .null).stored .number) with
  | .null => place t.nextId cells
  | .int id => place id cells
  | _ => .error .typeMismatch
where
  place (id : Int) (cells : List Cell) : Except StoreFault Table :=
    match missing? t (fun i => cells[i]?) with
    | some column => .error (.missingValue t.name column)
    | none =>
      if (t.row? id).isSome then .error (.takenKey t.name t.keyName)
      else
        match clash? t (fun i => cells[i]?) (takenBesides t id) with
        | some column => .error (.takenKey t.name column)
        | none => .ok { t with rows := insertRow ⟨id, cells⟩ t.rows }

/-- A row with assigned cells in place of its own; of several values for a column the last counts. -/
def assignRow (t : Table) (a : Assignments) (r : Row) : Row :=
  { r with cells := cellsBy t fun i => (setCell? t a i).getD (r.read (.cell i)) }

/-- Change the rows that meet the conditions and leave the others. -/
def assignRows (t : Table) (a : Assignments) (conditions : Conditions) : List Row :=
  t.rows.map fun r => if t.meets conditions r then assignRow t a r else r

def checkRequired (t : Table) (a : Assignments) : Except StoreFault Unit :=
  match missing? t (fun i => lastAssigned? a (.cell i)) with
  | some column => .error (.missingValue t.name column)
  | none => .ok ()

/-- No unique column is assigned a value that another row has or several rows would get. -/
def checkUnique (t : Table) (a : Assignments) (several : Bool) (r : Row) : Except StoreFault Unit :=
  match clash? t (setCell? t a) (fun i c => several || takenBesides t r.id i c) with
  | some column => .error (.takenKey t.name column)
  | none => .ok ()

/-- Give a new id to the one row that is changed; two rows cannot have it, nor can it be another
row's. -/
def moveRow (t : Table) (a : Assignments) (id : Int) : List Row → Except StoreFault (List Row)
  | [] => .ok t.rows
  | r :: rest =>
    if id ≠ r.id ∧ (t.row? id).isSome then .error (.takenKey t.name t.keyName)
    else do
      checkUnique t a false r
      if rest.isEmpty then
        return insertRow { assignRow t a r with id := id } (t.rows.filter (fun q => q.id ≠ r.id))
      else throw (.takenKey t.name t.keyName)

/-- The id that an update assigns, as it would be stored. -/
def setId? (a : Assignments) : Option Cell :=
  (lastAssigned? a .id).map (Cell.stored .number)

/-- Change the rows that meet the conditions. The answer tells how many there were. -/
def updateIn (t : Table) (a : Assignments) (conditions : Conditions) :
    Except StoreFault (Table × Nat) :=
  match t.select conditions with
  | [] => .ok (t, 0)
  | first :: rest =>
    match setId? a with
    | none => do
      checkRequired t a
      checkUnique t a (!rest.isEmpty) first
      return ({ t with rows := assignRows t a conditions }, rest.length + 1)
    | some (.int id) => do
      checkRequired t a
      let rows ← moveRow t a id (first :: rest)
      return ({ t with rows := rows }, rest.length + 1)
    | some _ => .error .typeMismatch

/-- A cell refers to a row of a table, or to nothing when it is null. -/
def refersInto (s : Store) (parent : String) : Cell → Bool
  | .null => true
  | .int id => ((s.table? parent).bind (·.row? id)).isSome
  | _ => false

/-- Every given cell of a column that refers to a table refers into it. -/
def referencesHold (s : Store) (t : Table) (cellAt : Nat → Option Cell) : Bool :=
  (List.range t.columns.length).all fun i =>
    match (t.columns[i]?).bind (·.refersTo), cellAt i with
    | some parent, some c => refersInto s parent c
    | _, _ => true

def isReferredTo (s : Store) (t : Table) (id : Int) : Bool :=
  s.tables.any fun u => (List.range u.columns.length).any fun i =>
    ((u.columns[i]?).bind (·.refersTo)).any (Text.sameName t.name)
      && u.rows.any (fun r => r.read (.cell i) == .int id)

/-- An update takes away the id of a row that others refer to. -/
def abandons (s : Store) (t : Table) (a : Assignments) (conditions : Conditions) : Bool :=
  match t.select conditions, setId? a with
  | [r], some (.int id) => id ≠ r.id && isReferredTo s t r.id
  | _, _ => false

/-- The grammar of a statement, from left to right. -/
def checkGrammar : Statement → Except StoreFault Unit
  | .insert table columns => do
    checkName table
    checkEach checkName columns.names
  | .update table sets conditions => do
    checkUpdated table
    checkEach checkName sets.names
    checkEach (checkOperand · "=") (conditions.map (·.1))

def prepare (s : Store) (statement : Statement) :
    Except StoreFault (Table × Assignments × Conditions) := do
  checkGrammar statement
  match statement with
  | .insert table columns =>
    match s.table? (bare table) with
    | none => throw (notWritable (bare table))
    | some t =>
      let a ← slots t (.tableLacksColumn (bare table)) columns
      return (t, a, [])
  | .update table sets conditions =>
    match s.table? (bare table) with
    | none => throw (notWritable (bare table))
    | some t =>
      let a ← slots t .noSuchColumn sets
      let c ← conditionsOf t s.now (conditions.map fun c => (c.1, bind c.2))
      return (t, a, c)

def perform (s : Store) (t : Table) (a : Assignments) (conditions : Conditions) :
    Statement → Except StoreFault (Table × Nat)
  | .insert .. => do
    let t' ← insertInto t a
    if referencesHold s t (fun i => some (newCell t a i)) then return (t', 1)
    else throw .danglingReference
  | .update .. => do
    let (t', affected) ← updateIn t a conditions
    if affected = 0 ∨ (referencesHold s t (setCell? t a) ∧ !abandons s t a conditions) then
      return (t', affected)
    else throw .danglingReference

/-- Execute a statement: a signaling value is refused before the names are looked up, a too large
integer after. -/
def execute (s : Store) (statement : Statement) : Except Failure (Store × Nat) :=
  if statement.values.any signals then .error .signalingNan
  else match prepare s statement with
    | .error e => .error (.store e)
    | .ok (t, a, conditions) =>
      if statement.values.any tooLarge then .error .integerRange
      else match perform s t a conditions statement with
        | .error e => .error (.store e)
        | .ok (t', affected) => .ok (s.replaceTable t', affected)

def shownValue : Value → String
  | .text s => Text.quoted s
  | v => v.display

/-- A refused insertion as it is told later on: why, the statement, and its values. -/
def refusalText (f : StoreFault) (table : String) (columns : Columns) : String :=
  let names := ", ".intercalate (columns.names.map fun name => "\"" ++ name ++ "\"")
  let places := ", ".intercalate (columns.map fun _ => "?")
  let values := ", ".intercalate (columns.values.map shownValue)
  s!"(sqlite3.IntegrityError) {f.message}\n[SQL: INSERT INTO \"{table}\" ({names}) VALUES ({places})]"
    ++ s!"\n[parameters: ({values})]\n(Background on this error at: https:"
    ++ "//sqlalche.me/e/20/gkpj)"

def matching (s : Store) (table column : String) (bound : Cell) :
    Except StoreFault (Table × List Row) := do
  checkName table
  checkOperand column "="
  match s.readable? (bare table) with
  | none => throw (.noSuchTable (bare table))
  | some t =>
    let conditions ← conditionsOf t s.now [(column, bound)]
    return (t, t.select conditions)

end RowLoader.Store
