import RowLoader.Proofs.KeyedUpdates
import RowLoader.Proofs.Runs
import RowLoader.Proofs.Sizes

/-!
What an update does with one record. By the header alone it has nothing to set, for every record, or it
executes one statement for every record; a keyed one that is done has found a row.
-/

namespace RowLoader

open RowLoader.Header RowLoader.Source RowLoader.Dictionary RowLoader.Store RowLoader.Complete
open RowLoader.Resolve RowLoader.Write

namespace Write

/-- Every target of a header is the target of a key field too. -/
def Covered (fields : List Field) : Prop :=
  ∀ f ∈ fields, f.target ∈ (keys fields).map Field.target

instance (fields : List Field) : Decidable (Covered fields) :=
  inferInstanceAs (Decidable (∀ f ∈ fields, f.target ∈ (keys fields).map Field.target))

theorem withoutKeys_eq_nil {fields : List Field} {values : List Value}
    (aligned : values.length = fields.length) :
    withoutKeys (keys fields) (enterValues [] (fields.zip values)) = [] ↔ Covered fields := by
  have names := names_withoutKeys (keys fields) (enterValues [] (fields.zip values))
  rw [names_enterValues aligned] at names
  have empty : withoutKeys (keys fields) (enterValues [] (fields.zip values)) = [] ↔
      (withoutKeys (keys fields) (enterValues [] (fields.zip values))).names = [] :=
    List.map_eq_nil_iff.symm
  rw [empty, names, List.filter_eq_nil_iff]
  constructor
  · intro none f member
    have set := none f.target (Run.mem_targetNames_of_mem (List.mem_map_of_mem member))
    simpa using set
  · intro covered n member
    obtain ⟨f, inside, rfl⟩ := List.mem_map.mp (Run.mem_targetNames member)
    simpa using covered f inside

theorem prepareUpdate_eq_none {table : String} {template : Template} {context : Context}
    {fields : List Field} {columns : Columns} {row : Int} {w w' : Workspace}
    {prepared : Option Statement}
    (h : (prepareUpdate table (some template) context fields columns row).runOn w =
      (.ok prepared, w')) :
    prepared = none ↔ withoutKeys (keys fields) columns = [] := by
  have changed : ∀ {sets : Columns} {conditions : List (String × Value)},
      (some <$> prepareChange table context sets conditions).runOn w = (.ok prepared, w') →
      prepared ≠ none := by
    intro sets conditions h
    rw [map_eq_pure_bind] at h
    obtain ⟨made, mid, _, h⟩ := Work.bind_ok h
    obtain ⟨rfl, _⟩ := Work.pure_ok h
    exact Option.some_ne_none made
  unfold prepareUpdate at h
  cases keyed : keys fields with
  | nil =>
      rw [keyed] at h
      rw [withoutKeys_nil]
      dsimp only at h
      unfold prepareBulk at h
      rw [Work.runOn_bind_of_ok (show (needed (some template)).runOn w = (.ok template, w) from rfl)]
        at h
      dsimp only at h
      split at h
      · rename_i empty
        obtain ⟨rfl, _⟩ := Work.pure_ok h
        exact ⟨fun _ => List.isEmpty_iff.mp empty, fun _ => rfl⟩
      · rename_i filled
        exact ⟨fun none => absurd none (changed h),
          fun empty => absurd (List.isEmpty_iff.mpr empty) filled⟩
  | cons first rest =>
      rw [keyed] at h
      dsimp only at h
      unfold prepareKeyed at h
      dsimp only at h
      split at h
      · cases h
      · split at h
        · rename_i empty
          obtain ⟨rfl, _⟩ := Work.pure_ok h
          exact ⟨fun _ => List.isEmpty_iff.mp empty, fun _ => rfl⟩
        · rename_i filled
          exact ⟨fun none => absurd none (changed h),
            fun empty => absurd (List.isEmpty_iff.mpr empty) filled⟩

end Write

namespace Run

variable {table : String} {template : Template} {context : Context} {fields : List Field}

/-- A record that is updated has nothing to set, or it executes one statement and tells how many rows it
has affected; which of the two, the header decides. -/
theorem writeRecord_update_ok {record : Record} {w w' : Workspace} {outcome : Outcome}
    (usable : w.breakdown = none)
    (h : (writeRecord table template context .update fields record).runOn w = (.ok outcome, w')) :
    w'.breakdown = none ∧
      (Covered fields ∧ outcome = nothingToUpdate record.row ∧ w'.store = w.store ∨
        ¬ Covered fields ∧ ∃ (sets : Columns) (conditions : List (String × Value)) (affected : Nat),
          Store.execute w.store (.update table sets conditions) = .ok (w'.store, affected) ∧
          outcome = ⟨record.row, .update, affected, predicate conditions⟩ ∧
          (keys fields = [] → conditions = bulkConditions template context) ∧
          (keys fields ≠ [] → affected ≠ 0)) := by
  rw [writeRecord_eq] at h
  obtain ⟨prepared, v, made, h⟩ := Work.bind_ok h
  obtain ⟨columns, mid, resolvedRow, made⟩ := Work.bind_ok made
  obtain ⟨values, _, rfl, aligned, asked⟩ := resolveRow_ok usable resolvedRow
  obtain ⟨later, stated⟩ := prepareUpdate_ok (asked.breakdown.trans usable) made
  have whole := (prepareUpdate_eq_none made).trans (withoutKeys_eq_nil aligned)
  have all := asked.trans later
  cases prepared with
  | none =>
      obtain ⟨rfl, rfl⟩ := Work.pure_ok h
      exact ⟨all.breakdown.trans usable, .inl ⟨whole.mp rfl, rfl, all.store⟩⟩
  | some statement =>
      obtain ⟨rfl, _⟩ := stated statement rfl
      obtain ⟨affected, u, executed, h⟩ := Work.bind_ok h
      obtain ⟨intact, s, done, rfl⟩ := Work.execute_ok executed
      obtain ⟨concluded, rfl⟩ := Work.ofFault_ok h
      rw [all.store] at done
      refine ⟨intact, .inr ⟨fun covered => absurd (whole.mpr covered) (Option.some_ne_none _), _, _,
        affected, done, ?_⟩⟩
      unfold conclude conditionsFor at concluded
      unfold conditionsFor
      cases keyed : keys fields with
      | nil =>
          rw [keyed] at concluded
          cases concluded
          exact ⟨rfl, fun _ => rfl, fun other => absurd rfl other⟩
      | cons first rest =>
          rw [keyed] at concluded
          dsimp only at concluded ⊢
          split at concluded
          · cases concluded
          · rename_i found
            cases concluded
            exact ⟨rfl, nofun, fun _ => found⟩

end Run

end RowLoader
