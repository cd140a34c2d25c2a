import RowLoader.Dictionary.Columns
import RowLoader.Dictionary.Sequence
import RowLoader.Dictionary.Template
import RowLoader.Store.Statement

/-!
Work on a store. A piece of work reads and changes a workspace and may fail; what it changed before
it failed stays changed, since only a transaction decides whether it counts.
-/

namespace RowLoader

open RowLoader.Dictionary

/-- A store being worked on, with what is remembered of columns and the supply of unique ids. A
transaction is open from the first use of the store on. Work that broke down while it advanced the
dictionary leaves the reason behind, and the store cannot be used until that is settled. -/
structure Workspace where
  store : Store
  memo : Recall
  uniqueId : Nat → String
  drawn : Nat
  isOpen : Bool
  breakdown : Option String

/-- Work that answers with a value or fails. -/
abbrev Work := ExceptT Failure (StateM Workspace)

namespace Work

/-- What a piece of work answers on a workspace, and the workspace that it leaves. -/
def runOn {α : Type} (work : Work α) (w : Workspace) : Except Failure α × Workspace :=
  work.run.run w

@[simp]
theorem runOn_pure {α : Type} (a : α) (w : Workspace) :
    (pure a : Work α).runOn w = (.ok a, w) := rfl

theorem runOn_bind {α β : Type} (x : Work α) (f : α → Work β) (w : Workspace) :
    (x >>= f).runOn w =
      match x.runOn w with
      | (.ok a, w') => (f a).runOn w'
      | (.error e, w') => (.error e, w') := by
  simp only [runOn, ExceptT.run_bind, StateT.run_bind]
  rcases StateT.run (ExceptT.run x) w with ⟨_ | _, _⟩ <;> rfl

/-- An answer that needs no store. -/
def ofExcept {α : Type} (x : Except Failure α) : Work α :=
  ExceptT.mk (pure x)

@[simp]
theorem runOn_ofExcept {α : Type} (x : Except Failure α) (w : Workspace) :
    (ofExcept x).runOn w = (x, w) := rfl

/-- An answer that fails, if at all, by a fault of the import. -/
def ofFault {α : Type} (x : Except Fault α) : Work α :=
  ofExcept (x.mapError .fault)

/-- Begin to use the store, if it can be used. -/
def enter : Work Unit := do
  let w ← get
  match w.breakdown with
  | some reason => throw (.unsettled reason)
  | none => set { w with isOpen := true }

def store : Work Store := do
  enter
  return (← get).store

def columnInfo (table column : String) : Work (Option ColumnInfo) := do
  if !(← get).memo.knowsInfo table column then enter
  let w ← get
  let (info, memo) := ask w.store w.memo table column
  set { w with memo := memo }
  return info

def hasColumn (table column : String) : Work Bool := do
  if !(← get).memo.knows table column then enter
  let w ← get
  let (row, memo) := locate w.store w.memo table column
  set { w with memo := memo }
  return row.isSome

/-- Change the dictionary, or break down for a reason that is told of the failure. -/
def advance {α : Type} (change : Store → Except Failure (α × Store)) (reason : Failure → String) :
    Work α := do
  enter
  let w ← get
  match change w.store with
  | .ok (a, store) =>
    set { w with store := store }
    return a
  | .error e =>
    if breaksDown e then set { w with breakdown := some (reason e) }
    throw e
where
  /-- A failure of the store itself; one that is found before is harmless. -/
  breaksDown : Failure → Bool
    | .store _ | .integerRange => true
    | _ => false

def nextKey (table : String) : Work (Option Value) :=
  advance (Dictionary.nextKey · table) Failure.message

def template? (id : Option Int) : Work (Option Template) := do
  if isTemplateId id then ofExcept (Dictionary.template? (← store) id) else return none

/-- The name of the table that a tab shows, if there is one. -/
def tableOfTab (tab : Option Int) : Work (Option String) := do
  if tab.any (· ≠ 0) then ofExcept (Dictionary.tableOfTab (← store) tab) else return none

/-- A unique id that was not drawn before. -/
def drawId : Work String := do
  let w ← get
  set { w with drawn := w.drawn + 1 }
  return w.uniqueId w.drawn

/-- Execute a statement; the answer is the number of affected rows. -/
def execute (statement : Store.Statement) : Work Nat := do
  enter
  let w ← get
  let (store, affected) ← ofExcept (Store.execute w.store statement)
  set { w with store := store }
  return affected

def addColumn (columns : Columns) : Work Unit :=
  advance (fun s => (Store.execute s (.insert columnTable columns)).map fun r => ((), r.1)) fun
    | .store f => Store.refusalText f columnTable columns
    | e => e.message

/-- Work that finds columns on its own: it has found none, and afterwards what is remembered is what
was found before, whether the work failed or not. Readings are shared. -/
def withFreshRecall {α : Type} (work : Work α) : Work α :=
  ExceptT.mk do
    let before := (← get).memo
    modify fun w => { w with memo := { w.memo with found := [] } }
    let answer ← work.run
    modify fun w => { w with memo := before.resume w.memo }
    return answer

theorem runOn_withFreshRecall {α : Type} (work : Work α) (w : Workspace) :
    (withFreshRecall work).runOn w =
      ((work.runOn { w with memo := { w.memo with found := [] } }).1,
        { (work.runOn { w with memo := { w.memo with found := [] } }).2 with
          memo := w.memo.resume
            (work.runOn { w with memo := { w.memo with found := [] } }).2.memo }) := rfl

end Work

end RowLoader
