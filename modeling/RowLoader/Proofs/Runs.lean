import Mathlib.Algebra.Ring.Int.Defs
import RowLoader.Proofs.Validation

/-!
A run as what it does with its plan. It ends in the problems of the lines, or it writes the records one
after the other and reports what it was told of each.
-/

namespace RowLoader

theorem Work.leaves_of_ok {α : Type} {x : Work α} {w : Workspace} {a : α}
    (h : (x.runOn w).1 = .ok a) : ∃ w', x.runOn w = (.ok a, w') :=
  ⟨(x.runOn w).2, Prod.ext h rfl⟩

namespace Report

/-- How many records were affected by what was done in one way. -/
def affectedBy (action : Action) (outcomes : List Outcome) : Int :=
  ((outcomes.filter fun o => o.action = action).map Outcome.affected).sum

theorem affectedBy_of_all {action : Action} {outcomes : List Outcome}
    (all : ∀ o ∈ outcomes, o.action = action) :
    affectedBy action outcomes = (outcomes.map Outcome.affected).sum := by
  unfold affectedBy
  rw [List.filter_eq_self.mpr fun o member => decide_eq_true (all o member)]

theorem affectedBy_of_none {action : Action} {outcomes : List Outcome}
    (none : ∀ o ∈ outcomes, o.action ≠ action) : affectedBy action outcomes = 0 := by
  unfold affectedBy
  rw [List.filter_eq_nil_iff.mpr fun o member => by simpa using none o member]
  rfl

theorem addAll_eq (report : Report) (outcomes : List Outcome) :
    report.addAll outcomes = { report with
      inserted := report.inserted + affectedBy .insert outcomes
      updated := report.updated + affectedBy .update outcomes
      skipped := report.skipped +
        outcomes.countP fun o => o.action ≠ .insert ∧ o.action ≠ .update
      outcomes := report.outcomes ++ outcomes } := by
  induction outcomes generalizing report with
  | nil => simp [addAll, affectedBy]
  | cons outcome rest ih =>
      change (report.add outcome).addAll rest = _
      rw [ih]
      unfold add affectedBy
      cases done : outcome.action <;>
        simp [done, Int.add_assoc, Int.add_comm 1]

theorem addAll_of_all (report : Report) {action : Action} {outcomes : List Outcome}
    (all : ∀ o ∈ outcomes, o.action = action) :
    report.addAll outcomes = { report with
      inserted := report.inserted +
        if action = .insert then (outcomes.map Outcome.affected).sum else 0
      updated := report.updated +
        if action = .update then (outcomes.map Outcome.affected).sum else 0
      skipped := report.skipped +
        if action = .insert ∨ action = .update then 0 else outcomes.length
      outcomes := report.outcomes ++ outcomes } := by
  have only : ∀ a, affectedBy a outcomes =
      if action = a then (outcomes.map Outcome.affected).sum else 0 := by
    intro a
    split
    · next same => exact affectedBy_of_all fun o member => same ▸ all o member
    · next differ => exact affectedBy_of_none fun o member => all o member ▸ differ
  have idle : outcomes.countP (fun o => o.action ≠ .insert ∧ o.action ≠ .update) =
      if action = .insert ∨ action = .update then 0 else outcomes.length := by
    split
    · next done =>
        refine List.countP_eq_zero.mpr fun o member => ?_
        rw [all o member, decide_eq_true_iff]
        tauto
    · next undone =>
        refine List.countP_eq_length.mpr fun o member => ?_
        rw [all o member, decide_eq_true_iff]
        tauto
  rw [addAll_eq, only, only, idle]

end Report

namespace Source

open RowLoader.Text RowLoader.Header

theorem cell_recordOf {fields : List Field} (numbered : Numbered fields) {f : Field}
    (member : f ∈ fields) {separator : Separator} {line : String}
    (complete : isComplete fields separator line = true) (row : Int) :
    (recordOf fields separator row line).cell f = .ok (some (lineCell separator line f)) := by
  have within := numbered.within member
  have long : fields.length ≤ (cellsOf separator line).length := by
    simpa [isComplete] using complete
  unfold Record.cell cellAt recordOf lineCell keyCell
  dsimp only
  rw [if_pos (by omega), List.getElem?_take, if_pos (by omega), List.getD_eq_getElem?_getD,
    List.getElem?_eq_getElem (by omega)]
  rfl

end Source

namespace Run

open RowLoader.Header RowLoader.Source RowLoader.Dictionary

def writeEach (table : String) (template : Template) (context : Context) (mode : Action)
    (fields : List Field) : List Record → Work (List Outcome)
  | [] => return []
  | record :: rest => do
    let outcome ← writeRecord table template context mode fields record
    let others ← writeEach table template context mode fields rest
    return outcome :: others

variable {table : String} {template : Template} {context : Context} {mode : Action}

section

variable {fields : List Field}

/-- A report is what the records are told of, entered into the report at the beginning. -/
theorem writeRecords_eq (report : Report) (records : List Record) :
    writeRecords table template context mode fields report records =
      report.addAll <$> writeEach table template context mode fields records := by
  induction records generalizing report with
  | nil => rfl
  | cons record rest ih =>
      unfold writeRecords writeEach
      simp only [ih, map_eq_pure_bind, bind_assoc, pure_bind]
      rfl

theorem writeEach_append (records others : List Record) :
    writeEach table template context mode fields (records ++ others) = do
      let first ← writeEach table template context mode fields records
      let second ← writeEach table template context mode fields others
      return first ++ second := by
  induction records with
  | nil => simp [writeEach]
  | cons record rest ih => simp [writeEach, ih]

end

def Plan.report (p : Plan) (table : String) (mode : Action) : Report :=
  { Report.empty with table := some table, mode, totalRows := p.records.length }

/-- What a run does once it has a plan: it ends in the problems of the lines, or writes the records. -/
def Plan.carryOut (p : Plan) (table : String) (template : Template) (context : Context)
    (mode : Action) : Work Report :=
  match p.problems with
  | [] => (p.report table mode).addAll <$>
      writeEach table template context mode p.fields p.records
  | first :: rest => Work.ofFault (.error (.row first (first :: rest)))

theorem importInto_eq {table : String} {template : Template} {context : Context} {mode : Action}
    {lines : List String} {p : Plan} (planned : plan template.header lines = .ok p) :
    importInto table template context mode lines = p.carryOut table template context mode := by
  funext w
  refine (runOn_importInto table context mode planned w).trans ?_
  unfold Plan.carryOut
  cases p.problems with
  | nil => rw [writeRecords_eq, Plan.report]; rfl
  | cons first rest => rfl

theorem runLines_some (valid : checkMode mode = .ok ()) (lines : List String) (w : Workspace) :
    (runLines (some template) context mode lines).runOn w =
      (importLines template context mode lines).runOn w := by
  simp only [runLines, valid]
  rfl

theorem runLines_refused {e : Fault} (refused : checkMode mode = .error e) (lines : List String)
    (w : Workspace) :
    (runLines (some template) context mode lines).runOn w = (.error (.fault e), w) := by
  simp only [runLines, refused]
  rfl

theorem runOn_runLines {p : Plan} {lines : List String} {w : Workspace}
    (named : ((tableOf template).runOn w).1 = .ok table)
    (planned : plan template.header lines = .ok p) (checked : checkMode mode = .ok ()) :
    (runLines (some template) context mode lines).runOn w =
      (((p.carryOut table template context mode).runOn (begun w)).1,
        { ((p.carryOut table template context mode).runOn (begun w)).2 with
          memo := w.memo.resume
            ((p.carryOut table template context mode).runOn (begun w)).2.memo }) := by
  rw [runLines_some checked, importLines_eq named, importInto_eq planned]

theorem reads_tableOf (template : Template) : Work.Reads (tableOf template) := by
  unfold tableOf Work.tableOfTab
  refine Work.Reads.bind ?_ fun found => ?_
  · split
    · exact Work.reads_store.bind fun s => Work.reads_ofExcept _
    · exact Work.reads_pure none
  · cases found with
    | none => exact Work.reads_ofFault _
    | some table => exact Work.reads_pure table

/-- A run that finds no table or no header ends there, and the store is the same. -/
theorem runLines_begins {lines : List String} {w w' : Workspace} {answer : Except Failure Report}
    (ran : (runLines (some template) context mode lines).runOn w = (answer, w')) :
    ((∃ e, answer = .error e) ∧ w'.store = w.store) ∨
      ∃ table p, ((tableOf template).runOn w).1 = .ok table ∧
        plan template.header lines = .ok p := by
  cases checked : checkMode mode with
  | error e =>
      rw [runLines_refused checked] at ran
      cases ran
      exact .inl ⟨⟨_, rfl⟩, rfl⟩
  | ok _ =>
      rw [runLines_some checked] at ran
      rcases found : (tableOf template).runOn { w with memo := { w.memo with found := [] } } with
        ⟨e | table, mid⟩
      · have same := (reads_tableOf template).of_runOn found
        unfold importLines at ran
        rw [Work.runOn_withFreshRecall, Work.runOn_bind_of_error found] at ran
        cases ran
        exact .inl ⟨⟨e, rfl⟩, same⟩
      · obtain ⟨usable, shown⟩ := tableOf_ok (congrArg Prod.fst found)
        have named : ((tableOf template).runOn w).1 = .ok table :=
          congrArg Prod.fst (runOn_tableOf (w := w) usable shown)
        cases planned : plan template.header lines with
        | ok p => exact .inr ⟨table, p, named, rfl⟩
        | error e =>
            rw [importLines_eq named] at ran
            unfold importInto at ran
            rw [planned, Work.runOn_bind_of_error (Work.runOn_ofFault_error e _)] at ran
            cases ran
            exact .inl ⟨⟨_, rfl⟩, rfl⟩

/-- A run succeeds where its mode can be run, nothing is wrong with the lines, and every record in its
turn can be written. -/
theorem runLines_ok_iff {p : Plan} {lines : List String} {w w' : Workspace} {report : Report}
    (named : ((tableOf template).runOn w).1 = .ok table)
    (planned : plan template.header lines = .ok p) :
    (runLines (some template) context mode lines).runOn w = (.ok report, w') ↔
      checkMode mode = .ok () ∧ p.problems = [] ∧ ∃ outcomes u,
        (writeEach table template context mode p.fields p.records).runOn (begun w) =
          (.ok outcomes, u) ∧
        report = (p.report table mode).addAll outcomes ∧
        w' = { u with memo := w.memo.resume u.memo } := by
  cases checked : checkMode mode with
  | error e =>
      rw [runLines_refused checked]
      constructor
      · intro h
        cases h
      · intro h
        cases h.1
  | ok _ =>
      rw [runOn_runLines named planned checked]
      unfold Plan.carryOut
      cases p.problems with
      | cons first rest =>
          constructor
          · intro h
            cases h
          · intro h
            cases h.2.1
      | nil =>
          simp only [map_eq_pure_bind, Work.runOn_bind, true_and]
          rcases (writeEach table template context mode p.fields p.records).runOn (begun w) with
            ⟨e | outcomes, u⟩
          · constructor
            · intro h
              cases h
            · rintro ⟨_, _, h, _⟩
              cases h
          · constructor
            · intro h
              cases h
              exact ⟨outcomes, u, rfl, rfl, rfl⟩
            · rintro ⟨_, _, h, rfl, rfl⟩
              cases h
              rfl

end Run

end RowLoader
