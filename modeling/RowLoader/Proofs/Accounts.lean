import RowLoader.Proofs.BulkUpdates

/-!
What a report says of a run that succeeds. Its lines are those of the file, in their order; its numbers add
up to what was done, and they are what the tables have gained.
-/

namespace RowLoader

open RowLoader.Header RowLoader.Source RowLoader.Dictionary RowLoader.Store RowLoader.Complete
open RowLoader.Resolve RowLoader.Write RowLoader.Text RowLoader.Identifier

/-- A report tells of an insertion for every line, and the table has got as many rows. -/
structure Report.OfInsertion (report : Report) (table : String) (s s' : Store) : Prop where
  outcomes : ∀ o ∈ report.outcomes, o.action = .insert ∧ o.affected = 1
  inserted : report.inserted = report.totalRows
  updated : report.updated = 0
  skipped : report.skipped = 0
  grown : ((rowsOf s' (bare table)).length : Int) =
    (rowsOf s (bare table)).length + report.inserted

/-- A report tells of no insertion, and no table has got or lost a row. Where the header has nothing to set
every line was skipped and the store is the same; elsewhere none was, and the report counts what the lines
have affected, which is something for every line of a keyed update. -/
structure Report.OfUpdate (report : Report) (fields : List Field) (s s' : Store) : Prop where
  inserted : report.inserted = 0
  sizes : ∀ name, (rowsOf s' name).length = (rowsOf s name).length
  idle : Covered fields → (∀ o ∈ report.outcomes, o.action = .skip) ∧
    report.skipped = report.totalRows ∧ report.updated = 0 ∧ s' = s
  busy : ¬ Covered fields → (∀ o ∈ report.outcomes, o.action ≠ .skip) ∧ report.skipped = 0 ∧
    report.updated = (report.outcomes.map Outcome.affected).sum
  found : ¬ Covered fields → keys fields ≠ [] → ∀ o ∈ report.outcomes, 1 ≤ o.affected

namespace Run

variable {table : String} {template : Template} {context : Context} {fields : List Field}

theorem draws_sized {s after : Store} (sound : s.WellFormed) {columns : Columns} {key : Value}
    (drawn : Draws s table columns key after) (target : String) : Sized target 0 s after := by
  unfold Draws at drawn
  split at drawn
  · exact nextKey_sized sound drawn target
  · rw [drawn.2]
    exact .refl target s

/-- A record that is inserted adds a row to the table, whatever else it sets. -/
theorem writeRecord_insert_ok {record : Record} {w w' : Workspace} {outcome : Outcome}
    (usable : w.breakdown = none) (sound : w.store.WellFormed)
    (h : (writeRecord table template context .insert fields record).runOn w = (.ok outcome, w')) :
    w'.breakdown = none ∧ w'.store.WellFormed ∧ Sized table 1 w.store w'.store ∧
      outcome = ⟨record.row, .insert, 1, ""⟩ := by
  obtain ⟨columns, reached, resolvedRow, h⟩ := Work.bind_ok h
  obtain ⟨_, _, rfl, _, asked⟩ := resolveRow_ok usable resolvedRow
  obtain ⟨_, last, affected, filled, _, _, executed, left, rfl⟩ := insert_ok h
  obtain ⟨key, mid, _, drawn, same⟩ := complete_ok filled
  rw [asked.store] at drawn
  have drew := draws_sized sound drawn table
  obtain ⟨solid, _⟩ := draws_keeps sound drawn
  rw [same] at executed
  obtain ⟨one, _⟩ := execute_insert_ok executed
  have grown := drew.trans (execute_insert_sized executed)
  rw [Nat.zero_add] at grown
  refine ⟨?_, execute_wellFormed solid executed, grown, ?_⟩
  · rw [left, same]
    exact asked.breakdown.trans usable
  · rw [one]
    rfl

theorem writeEach_insert_ok {records : List Record} {w w' : Workspace} {outcomes : List Outcome}
    (usable : w.breakdown = none) (sound : w.store.WellFormed)
    (h : (writeEach table template context .insert fields records).runOn w = (.ok outcomes, w')) :
    Sized table records.length w.store w'.store ∧
      outcomes = records.map fun r => ⟨r.row, .insert, 1, ""⟩ := by
  induction records generalizing w outcomes with
  | nil =>
      obtain ⟨rfl, rfl⟩ := Work.pure_ok h
      exact ⟨.refl table _, rfl⟩
  | cons record rest ih =>
      obtain ⟨outcome, v, written, h⟩ := Work.bind_ok h
      obtain ⟨others, u, later, h⟩ := Work.bind_ok h
      obtain ⟨rfl, rfl⟩ := Work.pure_ok h
      obtain ⟨intact, whole, one, rfl⟩ := writeRecord_insert_ok usable sound written
      obtain ⟨more, rfl⟩ := ih intact whole later
      have both := one.trans more
      rw [Nat.add_comm] at both
      exact ⟨both, rfl⟩

structure Answers (fields : List Field) (record : Record) (o : Outcome) : Prop where
  row : o.row = record.row
  idle : Covered fields → o.action = .skip
  busy : ¬ Covered fields → o.action = .update
  found : ¬ Covered fields → keys fields ≠ [] → 1 ≤ o.affected

theorem rows_answered {records : List Record} {outcomes : List Outcome}
    (each : List.Forall₂ (Answers fields) records outcomes) :
    outcomes.map Outcome.row = records.map Record.row := by
  induction each with
  | nil => rfl
  | cons answers _ ih => rw [List.map_cons, List.map_cons, answers.row, ih]

theorem writeEach_update_ok {records : List Record} {w w' : Workspace} {outcomes : List Outcome}
    (usable : w.breakdown = none) (sound : w.store.WellFormed)
    (h : (writeEach table template context .update fields records).runOn w = (.ok outcomes, w')) :
    Sized table 0 w.store w'.store ∧ (Covered fields → w'.store = w.store) ∧
      List.Forall₂ (Answers fields) records outcomes := by
  induction records generalizing w outcomes with
  | nil =>
      obtain ⟨rfl, rfl⟩ := Work.pure_ok h
      exact ⟨.refl table _, fun _ => rfl, .nil⟩
  | cons record rest ih =>
      obtain ⟨outcome, v, written, h⟩ := Work.bind_ok h
      obtain ⟨others, u, later, h⟩ := Work.bind_ok h
      obtain ⟨rfl, rfl⟩ := Work.pure_ok h
      obtain ⟨intact, ⟨covered, rfl, same⟩ | ⟨uncovered, _, _, affected, executed, rfl, _, met⟩⟩ :=
        writeRecord_update_ok usable written
      · obtain ⟨sized, kept, each⟩ := ih intact (same ▸ sound) later
        rw [same] at sized kept
        exact ⟨sized, kept, .cons ⟨rfl, fun _ => rfl, fun other => absurd covered other,
          fun other => absurd covered other⟩ each⟩
      · obtain ⟨sized, _, each⟩ := ih intact (execute_wellFormed sound executed) later
        have both := (execute_update_sized sound executed).trans sized
        refine ⟨both, fun covered => absurd covered uncovered, .cons ⟨rfl,
          fun covered => absurd covered uncovered, fun _ => rfl, fun _ keyed => ?_⟩ each⟩
        have some := met keyed
        change (1 : Int) ≤ affected
        omega

theorem Plan.rows_records {p : Plan} (clean : p.problems = []) :
    p.records.map Record.row = (List.range p.data.length).map fun i : Nat => p.firstRow + i := by
  rw [p.records_eq clean]
  refine List.ext_getElem (by simp) ?_
  intro i _ _
  simp [recordOf]

section

variable {p : Plan} {outcomes : List Outcome} {w w' : Workspace} (usable : w.breakdown = none)
  (sound : w.store.WellFormed)
include usable sound

theorem Plan.ofInsertion (written : (writeEach table template context .insert p.fields
      p.records).runOn w = (.ok outcomes, w')) :
    ((p.report table .insert).addAll outcomes).OfInsertion table w.store w'.store := by
  obtain ⟨sized, rfl⟩ := writeEach_insert_ok usable sound written
  have inserts : ∀ o ∈ p.records.map fun r => (⟨r.row, .insert, 1, ""⟩ : Outcome),
      o.action = .insert ∧ o.affected = 1 := by
    intro o member
    obtain ⟨r, _, rfl⟩ := List.mem_map.mp member
    exact ⟨rfl, rfl⟩
  have grown := sized (bare table)
  rw [if_pos (sameName_self _)] at grown
  rw [Report.addAll_of_all _ fun o member => (inserts o member).1]
  refine ⟨inserts, ?_, rfl, rfl, ?_⟩
  · simp [Plan.report, Report.empty, Function.comp_def]
  · simp [Plan.report, Report.empty, Function.comp_def, grown]

theorem Plan.ofUpdate (written : (writeEach table template context .update p.fields
      p.records).runOn w = (.ok outcomes, w')) :
    ((p.report table .update).addAll outcomes).OfUpdate p.fields w.store w'.store := by
  obtain ⟨sized, same, each⟩ := writeEach_update_ok usable sound written
  have sizes : ∀ name, (rowsOf w'.store name).length = (rowsOf w.store name).length := by
    intro name
    rw [sized name, ite_self, Nat.add_zero]
  by_cases covered : Covered p.fields
  · have skips : ∀ o ∈ outcomes, o.action = .skip := by
      intro o member
      obtain ⟨r, _, answers⟩ := mem_right_of_forall₂ each member
      exact answers.idle covered
    rw [Report.addAll_of_all _ skips]
    refine ⟨rfl, sizes, fun _ => ⟨skips, ?_, rfl, same covered⟩, fun busy => absurd covered busy,
      fun busy => absurd covered busy⟩
    simp [Plan.report, Report.empty, each.length_eq]
  · have updates : ∀ o ∈ outcomes, o.action = .update ∧ (keys p.fields ≠ [] → 1 ≤ o.affected) := by
      intro o member
      obtain ⟨r, _, answers⟩ := mem_right_of_forall₂ each member
      exact ⟨answers.busy covered, answers.found covered⟩
    rw [Report.addAll_of_all _ fun o member => (updates o member).1]
    refine ⟨rfl, sizes, fun idle => absurd idle covered, fun _ => ⟨?_, rfl, ?_⟩,
      fun _ keyed o member => (updates o member).2 keyed⟩
    · intro o member
      rw [(updates o member).1]
      decide
    · exact Int.zero_add _

end

/-- The report of a run that succeeds accounts for it: it has an outcome for every data line, numbered in
their order, and its numbers are those of an insertion or of an update. -/
theorem report_accounts_for_run {template : Template} {context : Context} {mode : Action}
    {lines : List String} {w w' : Workspace} {report : Report} (sound : w.store.WellFormed)
    (ran : (runLines (some template) context mode lines).runOn w = (.ok report, w')) :
    ∃ table p, ((tableOf template).runOn w).1 = .ok table ∧ plan template.header lines = .ok p ∧
      report.totalRows = p.data.length ∧ report.outcomes.length = p.data.length ∧
      report.outcomes.map Outcome.row =
        (List.range p.data.length).map (fun i : Nat => p.firstRow + i) ∧
      (mode = .insert ∧ report.OfInsertion table w.store w'.store ∨
        mode = .update ∧ report.OfUpdate p.fields w.store w'.store) := by
  obtain ⟨⟨e, failed⟩, _⟩ | ⟨table, p, named, planned⟩ := runLines_begins ran
  · cases failed
  obtain ⟨checked, clean, outcomes, u, written, rfl, rfl⟩ :=
    (runLines_ok_iff named planned).mp ran
  have usable : (begun w).breakdown = none := (tableOf_ok named).1
  have solid : (begun w).store.WellFormed := sound
  have long := Plan.length_records clean
  have total : ((p.report table mode).addAll outcomes).totalRows = p.data.length := by
    rw [Report.addAll_eq, ← long]
    rfl
  have told : ((p.report table mode).addAll outcomes).outcomes = outcomes :=
    outcomes_addAll _ outcomes
  refine ⟨table, p, named, planned, total, ?_⟩
  rw [told, ← Plan.rows_records clean, ← long]
  cases mode with
  | insert =>
      have made := Plan.ofInsertion usable solid written
      obtain ⟨_, rfl⟩ := writeEach_insert_ok usable solid written
      exact ⟨List.length_map _, by simp, .inl ⟨rfl, made⟩⟩
  | update =>
      have made := Plan.ofUpdate usable solid written
      obtain ⟨_, _, each⟩ := writeEach_update_ok usable solid written
      exact ⟨each.length_eq.symm, rows_answered each, .inr ⟨rfl, made⟩⟩
  | skip => cases checked
  | other name => cases checked

def keysOnlyPlan : Plan :=
  filePlan "Value/K;Value" ["A;B", "Z;C"]

def keysOnlyReport : Report :=
  told "Part" keysOnlyPlan
    [⟨2, .skip, 0, "nothing to update"⟩, ⟨3, .skip, 0, "nothing to update"⟩]

def partsNotSet : Except Failure Report × Workspace :=
  (runLines (some partTemplate) (.standard (Calendar.Date.midnight ⟨2026, 1, 2⟩)) .update
    ["Value/K;Value", "A;B", "Z;C"]).runOn partWorkspace

/-- Both lines are skipped, and the parts are the same. -/
theorem report_accounts_for_run_parts :
    partsNotSet.1 = .ok keysOnlyReport ∧ Covered keysOnlyPlan.fields ∧ keysOnlyReport.skipped = 2 ∧
      keysOnlyReport.OfUpdate keysOnlyPlan.fields partWorkspace.store partsNotSet.2.store ∧
      partsNotSet.2.store = partWorkspace.store := by
  have sound : partWorkspace.store.WellFormed := Store.wellFormed_partStore
  have planned : plan partTemplate.header ["Value/K;Value", "A;B", "Z;C"] = .ok keysOnlyPlan := by
    decide +kernel
  have covered : Covered keysOnlyPlan.fields := by decide +kernel
  have answer : partsNotSet.1 = .ok keysOnlyReport := by decide +kernel
  have ran : partsNotSet = (.ok keysOnlyReport, partsNotSet.2) := by
    rw [← answer, Prod.mk.eta]
  obtain ⟨_, p, _, planned', total, _, _, ⟨inserts, _⟩ | ⟨_, accounted⟩⟩ :=
    report_accounts_for_run sound ran
  · cases inserts
  · cases planned.symm.trans planned'
    obtain ⟨_, skipped, _, same⟩ := accounted.idle covered
    exact ⟨answer, covered, skipped.trans total, accounted, same⟩

end Run

end RowLoader
