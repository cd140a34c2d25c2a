import RowLoader.Proofs.Runs

/-!
Rows under other numbers. The number of a row is told in what is answered for it and counts for nothing
else: records that are numbered from further on are written alike, and their outcomes and faults carry
the later numbers.
-/

namespace RowLoader

open RowLoader.Header RowLoader.Source RowLoader.Dictionary RowLoader.Store

def RowProblem.renumber (k : Int) : RowProblem → RowProblem
  | .duplicateKey value firstRow => .duplicateKey value (firstRow + k)
  | p => p

def RowFault.renumber (k : Int) (f : RowFault) : RowFault :=
  { f with row := f.row + k, problem := f.problem.renumber k }

def Fault.renumber (k : Int) : Fault → Fault
  | .row first problems => .row (first.renumber k) (problems.map (RowFault.renumber k))
  | f => f

/-- A failure with every number of a row raised: its own, those of all its problems, and the numbers of
the rows where repeated keys came first. -/
def Failure.renumber (k : Int) : Failure → Failure
  | .fault f => .fault (f.renumber k)
  | e => e

def Outcome.renumber (k : Int) (o : Outcome) : Outcome :=
  { o with row := o.row + k }

def Report.renumber (k : Int) (r : Report) : Report :=
  { r with outcomes := r.outcomes.map (Outcome.renumber k) }

def Source.Record.renumber (k : Int) (r : Record) : Record :=
  { r with row := r.row + k }

/-- An answer with a change of what succeeds, and the numbers of what fails raised. -/
def renumbered {α β : Type} (k : Int) (g : α → β) (x : Except Failure α) : Except Failure β :=
  (x.map g).mapError (Failure.renumber k)

section

variable {α β γ δ : Type} {k : Int}

theorem renumbered_eq_ok {g : α → β} {x : Except Failure α} {b : β} :
    renumbered k g x = .ok b ↔ ∃ a, x = .ok a ∧ g a = b := by
  cases x <;> simp [renumbered, Except.map, Except.mapError]

theorem toOption_renumbered (k : Int) (g : α → β) (x : Except Failure α) :
    (renumbered k g x).toOption = x.toOption.map g := by
  cases x <;> rfl

theorem Failure.renumber_eq_self {e : Failure} (h : ∀ f, e ≠ .fault f) : e.renumber k = e := by
  cases e with
  | fault f => exact absurd rfl (h f)
  | _ => rfl

theorem renumbered_eq_self {x : Except Failure α} (h : ∀ f, x ≠ .error (.fault f)) :
    renumbered k id x = x := by
  cases x with
  | ok a => rfl
  | error e => exact congrArg Except.error (Failure.renumber_eq_self fun f same => h f (same ▸ rfl))

/-- A fault that no record without fields can end in is none of a row. -/
theorem Source.Record.EndsIn.renumber {f : Fault} (ends : Record.EndsIn ⟨0, []⟩ [] f) :
    f.renumber k = f := by
  cases f with
  | row first problems =>
      obtain ⟨_, _, g, member, _⟩ := ends
      cases member
  | _ => rfl

def Work.Renumbers (k : Int) (g : α → β) (x : Work α) (y : Work β) : Prop :=
  ∀ w, y.runOn w = (renumbered k g (x.runOn w).1, (x.runOn w).2)

namespace Work

theorem renumbers_pure (k : Int) (g : α → β) (a : α) :
    Renumbers k g (pure a) (pure (g a)) :=
  fun _ => rfl

theorem renumbers_ofExcept {g : α → β} {x : Except Failure α} {y : Except Failure β}
    (same : y = renumbered k g x) : Renumbers k g (ofExcept x) (ofExcept y) := by
  subst same
  exact fun _ => rfl

theorem Renumbers.bind {g : α → γ} {h : β → δ} {x : Work α} {y : Work γ} {f : α → Work β}
    {f' : γ → Work δ} (first : Renumbers k g x y) (next : ∀ a, Renumbers k h (f a) (f' (g a))) :
    Renumbers k h (x >>= f) (y >>= f') := by
  intro w
  rw [runOn_bind, runOn_bind, first w]
  rcases x.runOn w with ⟨e | a, mid⟩
  · rfl
  · exact next a mid

theorem Renumbers.withFreshRecall {g : α → β} {x : Work α} {y : Work β} (h : Renumbers k g x y) :
    Renumbers k g (withFreshRecall x) (withFreshRecall y) := by
  intro w
  rw [runOn_withFreshRecall, runOn_withFreshRecall, h]

theorem FaultsIn.renumbers {x : Work α} (unnumbered : FaultsIn (Record.EndsIn ⟨0, []⟩ []) x) :
    Renumbers k id x x := by
  intro w
  rcases ran : x.runOn w with ⟨e | a, w'⟩
  · cases e with
    | fault f =>
        have same := (unnumbered w f w' ran).renumber (k := k)
        exact congrArg (fun f => (Except.error (Failure.fault f), w')) same.symm
    | _ => rfl
  · rfl

end Work

end

namespace Resolve

theorem cast_renumber (k : Int) (info : Option ColumnInfo) (table : String) (f : Field)
    (raw : String) (row : Int) :
    cast info table f raw (row + k) = renumbered k id (cast info table f raw row) := by
  unfold cast
  cases kindOf info with
  | text =>
      dsimp only
      cases limited : exceeds raw.length (lengthOf info) with
      | error e =>
          have same := renumbered_eq_self (k := k) (exceeds_ne_fault raw.length (lengthOf info))
          rw [limited] at same
          exact congrArg Except.error (Except.error.inj same).symm
      | ok long => cases long <;> rfl
  | integer =>
      dsimp only
      split
      · refine (renumbered_eq_self ?_).symm
        exact fun e failed => integer_ne_fault raw e (except_map_error failed)
      · rfl
  | decimal =>
      dsimp only
      split
      · refine (renumbered_eq_self ?_).symm
        exact fun e failed => decimal_ne_fault raw e (except_map_error failed)
      · rfl
  | boolean =>
      dsimp only
      split
      · rfl
      · split <;> rfl
  | temporal =>
      dsimp only
      cases readTemporal raw <;> rfl

theorem lookupValue_renumber (k : Int) (s : Store) (names : String × String × String) (kind : Kind)
    (f : Field) (raw : String) (row : Int) :
    lookupValue s names kind f raw (row + k) =
      renumbered k id (lookupValue s names kind f raw row) := by
  obtain ⟨table, target, column⟩ := names
  unfold lookupValue
  dsimp only
  cases matching s table column (.text raw) with
  | error e => rfl
  | ok found =>
      obtain ⟨t, hits⟩ := found
      simp only [Except.mapError, except_ok_bind]
      match hits with
      | [] => rfl
      | [r] =>
          refine (renumbered_eq_self ?_).symm
          intro e failed
          rcases except_bind_error failed with failed | ⟨_, _, failed⟩
          · cases checked : checkTarget target <;> rw [checked] at failed <;> cases failed
          · split at failed
            · exact normalizeNumber_ne_fault _ _ e failed
            · cases failed
      | _ :: _ :: _ => rfl

theorem renumbers_resolve (k : Int) (table : String) (f : Field) (raw : Option String) (row : Int) :
    Work.Renumbers k id (resolve table f raw row) (resolve table f raw (row + k)) := by
  unfold resolve
  split
  · exact Work.renumbers_pure k id _
  · refine (Work.faultsIn_columnInfo table f.target).renumbers.bind ?_
    intro info
    unfold valueOf
    dsimp only [id_eq]
    split
    · exact Work.renumbers_ofExcept (renumbered_eq_self (literal_ne_fault _ _)).symm
    · split
      · refine (Work.faultsIn_ofFault ?_).renumbers.bind ?_
        · intro e failed
          obtain ⟨name, rfl⟩ := lookupNames_fault failed
          exact trivial
        · intro names
          refine Work.faultsIn_store.renumbers.bind ?_
          intro s
          exact Work.renumbers_ofExcept (lookupValue_renumber k s names _ f _ row)
      · exact Work.renumbers_ofExcept (cast_renumber k info table f _ row)

theorem renumbers_resolveRow (k : Int) (table : String) (record : Record) (columns : Columns)
    (fields : List Field) :
    Work.Renumbers k id (resolveRow table record columns fields)
      (resolveRow table (record.renumber k) columns fields) := by
  induction fields generalizing columns with
  | nil => exact Work.renumbers_pure k id _
  | cons f rest ih =>
      unfold resolveRow
      refine Work.Renumbers.bind (g := id) (Work.renumbers_ofExcept ?_) ?_
      · exact (renumbered_eq_self (cellAt_ne_fault record.cells f.position)).symm
      · intro raw
        refine (renumbers_resolve k table f raw record.row).bind ?_
        intro v
        exact ih (columns.put f.target v)

end Resolve

namespace Write

theorem renumbers_insert (k : Int) (table : String) (template : Option Template) (context : Context)
    (columns : Columns) (row : Int) :
    Work.Renumbers k (Outcome.renumber k) (insert table template context columns row)
      (insert table template context columns (row + k)) := by
  refine (Work.FaultsIn.renumbers (faultsIn_complete trivial template context columns)).bind ?_
  intro completed
  refine (Work.faultsIn_ofFault ?_).renumbers.bind ?_
  · intro e failed
    obtain ⟨name, rfl⟩ := makeInsert_fault failed
    exact trivial
  · intro statement
    refine (Work.faultsIn_execute statement).renumbers.bind ?_
    intro affected
    exact Work.renumbers_pure k _ _

theorem renumbers_notFound {α β : Type} (k : Int) (g : α → β) (row : Int) (first : Field)
    (conditions : List (String × Value)) :
    Work.Renumbers k g (Work.ofFault (.error (notFound row first conditions)))
      (Work.ofFault (.error (notFound (row + k) first conditions))) :=
  fun _ => rfl

theorem renumbers_update (k : Int) (table : String) (template : Option Template) (context : Context)
    (fields : List Field) (columns : Columns) (row : Int) :
    Work.Renumbers k (Outcome.renumber k) (update table template context fields columns row)
      (update table template context fields columns (row + k)) := by
  have changed := fun sets conditions => Work.FaultsIn.renumbers (k := k)
    (faultsIn_change_of_names (fun _ => trivial) table context sets conditions)
  unfold update
  cases keys fields with
  | nil =>
      refine (faultsIn_needed template).renumbers.bind ?_
      intro t
      dsimp only [id_eq]
      split
      · exact Work.renumbers_pure k _ _
      · refine (changed columns _).bind ?_
        intro affected
        exact Work.renumbers_pure k _ _
  | cons first rest =>
      dsimp only [updateKeyed]
      split
      · exact renumbers_notFound k _ row first _
      · split
        · exact Work.renumbers_pure k _ _
        · refine (changed _ _).bind ?_
          intro affected
          dsimp only [id_eq]
          split
          · exact renumbers_notFound k _ row first _
          · exact Work.renumbers_pure k _ _

end Write

namespace Run

theorem renumbers_writeRecord (k : Int) (table : String) (template : Template) (context : Context)
    (mode : Action) (fields : List Field) (record : Record) :
    Work.Renumbers k (Outcome.renumber k) (writeRecord table template context mode fields record)
      (writeRecord table template context mode fields (record.renumber k)) := by
  refine (Resolve.renumbers_resolveRow k table record [] fields).bind ?_
  intro columns
  cases mode with
  | update => exact Write.renumbers_update k table (some template) context fields columns record.row
  | _ => exact Write.renumbers_insert k table (some template) context columns record.row

variable {table : String} {template : Template} {context : Context} {mode : Action}
  {fields : List Field}

theorem renumbers_writeEach (k : Int) (records : List Record) :
    Work.Renumbers k (List.map (Outcome.renumber k))
      (writeEach table template context mode fields records)
      (writeEach table template context mode fields (records.map (Record.renumber k))) := by
  induction records with
  | nil => exact Work.renumbers_pure k _ _
  | cons record rest ih =>
      refine (renumbers_writeRecord k table template context mode fields record).bind ?_
      intro outcome
      refine ih.bind ?_
      intro others
      exact Work.renumbers_pure k _ _

end Run

namespace Source

theorem lineProblems_renumber (k : Int) (fields : List Field) (separator : Text.Separator)
    (firstRow : Int) (earlier : List String) (line : String) :
    lineProblems fields separator (firstRow + k) earlier line =
      (lineProblems fields separator firstRow earlier line).map (RowFault.renumber k) := by
  have later : ∀ n : Nat, firstRow + k + n = firstRow + n + k := fun n => Int.add_right_comm _ _ _
  unfold lineProblems
  cases isComplete fields separator line with
  | false => simp [later, RowFault.renumber, RowProblem.renumber]
  | true =>
      simp only [if_true, List.map_filterMap, Option.map_map, later]
      rfl

theorem problemsAfter_renumber (k : Int) (fields : List Field) (separator : Text.Separator)
    (firstRow : Int) (earlier lines : List String) :
    problemsAfter fields separator (firstRow + k) earlier lines =
      (problemsAfter fields separator firstRow earlier lines).map (RowFault.renumber k) := by
  induction lines generalizing earlier with
  | nil => rfl
  | cons line rest ih =>
      simp only [problemsAfter, List.map_append, lineProblems_renumber, ih]

theorem recordsFrom_renumber (k : Int) (fields : List Field) (separator : Text.Separator)
    (row : Int) (lines : List String) :
    recordsFrom fields separator (row + k) lines =
      (recordsFrom fields separator row lines).map (Record.renumber k) := by
  induction lines generalizing row with
  | nil => rfl
  | cons line rest ih =>
      have later : row + k + 1 = row + 1 + k := Int.add_right_comm _ _ _
      unfold recordsFrom
      rw [later, ih]
      split <;> rfl

end Source

theorem Report.renumber_addAll (k : Int) (report : Report) (outcomes : List Outcome) :
    (report.addAll outcomes).renumber k =
      (report.renumber k).addAll (outcomes.map (Outcome.renumber k)) := by
  induction outcomes generalizing report with
  | nil => rfl
  | cons outcome rest ih =>
      have first : (report.add outcome).renumber k =
          (report.renumber k).add (outcome.renumber k) := by
        obtain ⟨row, action, affected, detail⟩ := outcome
        cases action <;> simp [Report.add, Report.renumber, Outcome.renumber]
      exact (ih _).trans (congrArg (Report.addAll · _) first)

namespace Run

def Plan.renumber (k : Int) (p : Plan) : Plan :=
  { p with firstRow := p.firstRow + k }

theorem Plan.problems_renumber (k : Int) (p : Plan) :
    (p.renumber k).problems = p.problems.map (RowFault.renumber k) :=
  problemsAfter_renumber k p.fields p.separator p.firstRow [] p.data

theorem Plan.records_renumber (k : Int) (p : Plan) :
    (p.renumber k).records = p.records.map (Record.renumber k) :=
  recordsFrom_renumber k p.fields p.separator p.firstRow p.data

theorem Plan.renumbers_carryOut (k : Int) (p : Plan) (table : String) (template : Template)
    (context : Context) (mode : Action) :
    Work.Renumbers k (Report.renumber k) (p.carryOut table template context mode)
      ((p.renumber k).carryOut table template context mode) := by
  have begins : (p.renumber k).report table mode = (p.report table mode).renumber k := by
    simp [Plan.report, Plan.records_renumber, Report.renumber, Report.empty]
  unfold Plan.carryOut
  rw [Plan.problems_renumber, Plan.records_renumber, begins]
  cases p.problems with
  | nil =>
      simp only [List.map_nil, map_eq_pure_bind]
      refine (renumbers_writeEach k p.records).bind ?_
      intro outcomes
      rw [← Report.renumber_addAll]
      exact Work.renumbers_pure k _ _
  | cons first rest => exact fun _ => rfl

end Run

end RowLoader
