import RowLoader.Proofs.Execution
import RowLoader.Proofs.Resolution
import RowLoader.Proofs.Validation

/-!
Which record a keyed update addresses. The values of a record are kept under their targets, so of
several fields with one target the last decides, also over a key field. A keyed update goes by its key
cells alone exactly when no field after a key field has its target.
-/

namespace RowLoader

open RowLoader.Header RowLoader.Dictionary RowLoader.Store RowLoader.Resolve

namespace Resolve

def lastValue? (name : String) (pairs : List (Field × Value)) : Option Value :=
  (pairs.reverse.find? fun p => p.1.target = name).map (·.2)

theorem lastValue?_append (name : String) (earlier later : List (Field × Value)) :
    lastValue? name (earlier ++ later) = (lastValue? name later).or (lastValue? name earlier) := by
  unfold lastValue?
  rw [List.reverse_append, List.find?_append]
  cases later.reverse.find? fun p => p.1.target = name <;> rfl

theorem lastValue?_singleton (name : String) (p : Field × Value) :
    lastValue? name [p] = if p.1.target = name then some p.2 else none := by
  unfold lastValue?
  by_cases named : p.1.target = name <;> simp [named]

theorem lastValue?_eq_none {name : String} {pairs : List (Field × Value)} :
    lastValue? name pairs = none ↔ ∀ p ∈ pairs, p.1.target ≠ name := by
  unfold lastValue?
  rw [Option.map_eq_none_iff, List.find?_eq_none]
  constructor
  · intro absent p member same
    exact absent p (List.mem_reverse.mpr member) (decide_eq_true same)
  · intro apart p member same
    exact apart p (List.mem_reverse.mp member) (of_decide_eq_true same)

theorem lastValue?_of_last {earlier later : List (Field × Value)} {f : Field} {v : Value}
    (last : ∀ p ∈ later, p.1.target ≠ f.target) :
    lastValue? f.target (earlier ++ (f, v) :: later) = some v := by
  rw [← List.singleton_append, lastValue?_append, lastValue?_append, lastValue?_eq_none.mpr last,
    lastValue?_singleton, if_pos rfl]
  rfl

theorem lastValue?_some {name : String} {pairs : List (Field × Value)} {v : Value}
    (h : lastValue? name pairs = some v) : ∃ p ∈ pairs, p.1.target = name ∧ p.2 = v := by
  obtain ⟨p, found, same⟩ := Option.map_eq_some_iff.mp h
  have named := List.find?_some found
  exact ⟨p, List.mem_reverse.mp (List.mem_of_find?_eq_some found), of_decide_eq_true named, same⟩

theorem get?_enterValues (columns : Columns) (pairs : List (Field × Value)) (name : String) :
    (enterValues columns pairs).get? name = (lastValue? name pairs).or (columns.get? name) := by
  induction pairs generalizing columns with
  | nil => rfl
  | cons p rest ih =>
      have later : enterValues columns (p :: rest) =
          enterValues (columns.put p.1.target p.2) rest := rfl
      rw [later, ih, ← List.singleton_append, lastValue?_append, lastValue?_singleton,
        Option.or_assoc]
      congr 1
      by_cases named : p.1.target = name
      · rw [if_pos named, named, Columns.get?_put_self]
        rfl
      · rw [if_neg named, Columns.get?_put_of_ne _ _ (Ne.symm named)]
        rfl

end Resolve

namespace Write

/-- An update with given conditions: what is done once it is settled which records a row is about. -/
def updateWhere (table : String) (context : Context) (first : Field)
    (conditions : List (String × Value)) (sets : Columns) (row : Int) : Work Outcome :=
  if conditions.any (fun c => c.2 = .null) then
    Work.ofFault (.error (notFound row first conditions))
  else if sets.isEmpty then return nothingToUpdate row
  else do
    let affected ← change table context sets conditions
    if affected = 0 then Work.ofFault (.error (notFound row first conditions))
    else return ⟨row, .update, affected, predicate conditions⟩

def ownConditions (pairs : List (Field × Value)) : List (String × Value) :=
  (pairs.filter (·.1.isKey)).map fun p => (p.1.target, p.2)

/-- The conditions that the key fields make with the last value of their target. -/
def lastConditions (pairs : List (Field × Value)) : List (String × Value) :=
  (pairs.filter (·.1.isKey)).map fun p => (p.1.target, (lastValue? p.1.target pairs).getD .null)

/-- No field after a key field has its target. -/
def KeysLast (fields : List Field) : Prop :=
  ∀ before f after, fields = before ++ f :: after → f.isKey = true →
    ∀ g ∈ after, g.target ≠ f.target

theorem keys_zip {fields : List Field} {values : List Value}
    (aligned : values.length = fields.length) :
    keys fields = ((fields.zip values).filter (·.1.isKey)).map (·.1) := by
  have fronts : (fields.zip values).map (·.1) = fields := List.map_fst_zip (by omega)
  conv_lhs => rw [← fronts]
  exact List.filter_map

theorem keyConditions_enterValues {fields : List Field} {values : List Value}
    (aligned : values.length = fields.length) :
    keyConditions (keys fields) (enterValues [] (fields.zip values)) =
      lastConditions (fields.zip values) := by
  unfold keyConditions lastConditions
  rw [keys_zip aligned, List.map_map]
  apply List.map_congr_left
  intro p _
  have last := get?_enterValues [] (fields.zip values) p.1.target
  have empty : Columns.get? [] p.1.target = none := rfl
  rw [empty, Option.or_none] at last
  simp only [Function.comp_apply, Columns.getD, last]

/-- The conditions are those of the key cells exactly when each key cell is the last for its target. -/
theorem lastConditions_eq_own {pairs : List (Field × Value)} :
    lastConditions pairs = ownConditions pairs ↔
      ∀ p ∈ pairs, p.1.isKey = true → lastValue? p.1.target pairs = some p.2 := by
  unfold lastConditions ownConditions
  rw [List.map_inj_left]
  constructor
  · intro same p member key
    have value := congrArg Prod.snd (same p (List.mem_filter.mpr ⟨member, key⟩))
    cases last : lastValue? p.1.target pairs with
    | none => exact absurd rfl (lastValue?_eq_none.mp last p member)
    | some v =>
        rw [last] at value
        exact congrArg some value
  · intro last p member
    obtain ⟨member, key⟩ := List.mem_filter.mp member
    rw [last p member key]
    rfl

theorem lastValue?_of_keysLast {fields : List Field} (keysLast : KeysLast fields)
    {values : List Value} (aligned : values.length = fields.length) :
    ∀ p ∈ fields.zip values, p.1.isKey = true →
      lastValue? p.1.target (fields.zip values) = some p.2 := by
  intro p member key
  obtain ⟨earlier, later, split⟩ := List.append_of_mem member
  have fronts : fields = earlier.map (·.1) ++ p.1 :: later.map (·.1) := by
    have whole := congrArg (List.map (·.1)) split
    rwa [List.map_fst_zip (by omega), List.map_append, List.map_cons] at whole
  have apart := keysLast _ p.1 _ fronts key
  rw [split]
  exact lastValue?_of_last fun q after => apart q.1 (List.mem_map_of_mem after)

/-- Where a field after a key field has its target, some values tell the two apart. -/
theorem keysLast_of_forall {fields : List Field}
    (same : ∀ values : List Value, values.length = fields.length →
      lastConditions (fields.zip values) = ownConditions (fields.zip values)) :
    KeysLast fields := by
  rintro before f after rfl key g member named
  let early : List Value := List.replicate (before.length + 1) (.whole 0)
  let late : List Value := List.replicate after.length (.whole 1)
  have zipped : (before ++ f :: after).zip (early ++ late) =
      (before ++ [f]).zip early ++ after.zip late := by
    rw [← List.singleton_append, ← List.append_assoc]
    exact List.zip_append (by simp [early])
  have agree := same (early ++ late) (by simp [early, late]; omega)
  rw [lastConditions_eq_own, zipped] at agree
  have here : (f, Value.whole 0) ∈ (before ++ [f]).zip early := by
    have whole : early = List.replicate before.length (.whole 0) ++ [.whole 0] := by
      simp [early, List.replicate_succ']
    rw [whole, List.zip_append (by simp)]
    simp
  have own := agree _ (List.mem_append_left _ here) key
  rw [lastValue?_append] at own
  have there : lastValue? f.target (after.zip late) = some (.whole 1) := by
    have fronts : (after.zip late).map (·.1) = after := List.map_fst_zip (by simp [late])
    rw [← fronts] at member
    obtain ⟨q, inside, rfl⟩ := List.mem_map.mp member
    cases last : lastValue? f.target (after.zip late) with
    | none => exact absurd named (lastValue?_eq_none.mp last q inside)
    | some v =>
        obtain ⟨p, present, _, rfl⟩ := lastValue?_some last
        exact congrArg some (List.eq_of_mem_replicate (List.of_mem_zip present).2)
  rw [there] at own
  cases own

theorem reads_withChange (table : String) (context : Context) (sets : Columns) :
    Work.Reads (withChange table context sets) :=
  ((Work.reads_hasColumn table _).bind fun _ => Work.reads_pure _).bind fun _ =>
    (Work.reads_hasColumn table _).bind fun _ => Work.reads_pure _

theorem change_ok {table : String} {context : Context} {sets : Columns}
    {conditions : List (String × Value)} {w w' : Workspace} {affected : Nat}
    (h : (change table context sets conditions).runOn w = (.ok affected, w')) :
    ∃ changed, Store.execute w.store (.update table changed conditions) =
      .ok (w'.store, affected) := by
  unfold change at h
  obtain ⟨changed, mid, extended, h⟩ := Work.bind_ok h
  have kept := (reads_withChange table context sets).of_runOn extended
  obtain ⟨statement, made, built, ended⟩ := Work.bind_ok h
  obtain ⟨accepted, rfl⟩ := Work.ofFault_ok built
  obtain ⟨_, s, executed, rfl⟩ := Work.execute_ok ended
  rw [Statement.makeUpdate_eq accepted, kept] at executed
  exact ⟨changed, executed⟩

theorem updateWhere_ok {table : String} {context : Context} {first : Field}
    {conditions : List (String × Value)} {sets : Columns} {row : Int} {w w' : Workspace}
    {outcome : Outcome}
    (h : (updateWhere table context first conditions sets row).runOn w = (.ok outcome, w'))
    (updated : outcome.action = .update) :
    ∃ changed affected, Store.execute w.store (.update table changed conditions) =
      .ok (w'.store, affected) ∧ outcome = ⟨row, .update, affected, predicate conditions⟩ := by
  unfold updateWhere at h
  split at h
  · cases h
  · split at h
    · cases h
      cases updated
    · obtain ⟨affected, mid, changed, h⟩ := Work.bind_ok h
      obtain ⟨statement, executed⟩ := change_ok changed
      split at h
      · cases h
      · cases h
        exact ⟨statement, affected, executed, rfl⟩

/-- A row of a keyed update is resolved cell by cell, and what is done then goes by the last value of
each key target. -/
theorem runOn_writeRecord_update {table : String} {template : Template} {context : Context}
    {fields : List Field} {first : Field} {rest : List Field} (keyed : keys fields = first :: rest)
    (record : Source.Record) (w : Workspace) :
    (Run.writeRecord table template context .update fields record).runOn w =
      (do
        let values ← resolveEach table record fields
        updateWhere table context first (lastConditions (fields.zip values))
          (withoutKeys (keys fields) (enterValues [] (fields.zip values))) record.row :
        Work Outcome).runOn w := by
  unfold Run.writeRecord
  rw [Work.runOn_bind, runOn_resolveRow, Work.runOn_bind, Work.runOn_bind]
  rcases went : (resolveEach table record fields).runOn w with ⟨e | values, w'⟩
  · rfl
  · have aligned := length_of_resolveEach went
    dsimp only [Work.runOn_pure]
    unfold update updateWhere
    rw [keyed, ← keyConditions_enterValues aligned, keyed]
    rfl

/-- Every row of a keyed update goes by the last value of each key target: where it changes records, it
executes a statement whose conditions are the key targets with these values, in the order of the
header. In one row these are the values of the key cells exactly when each key cell is the last for
its target; in every row exactly when no field after a key field has its target. -/
theorem keyed_update_addresses (table : String) (template : Template) (context : Context)
    (fields : List Field) {first : Field} {rest : List Field} (keyed : keys fields = first :: rest)
    (record : Source.Record) (w : Workspace) :
    (Run.writeRecord table template context .update fields record).runOn w =
        (do
          let values ← resolveEach table record fields
          updateWhere table context first (lastConditions (fields.zip values))
            (withoutKeys (keys fields) (enterValues [] (fields.zip values))) record.row :
          Work Outcome).runOn w ∧
      (∀ outcome w', (Run.writeRecord table template context .update fields record).runOn w =
          (.ok outcome, w') → outcome.action = .update →
        ∃ values changed affected, ((resolveEach table record fields).runOn w).1 = .ok values ∧
          Store.execute w.store (.update table changed (lastConditions (fields.zip values))) =
            .ok (w'.store, affected) ∧ outcome.affected = affected) ∧
      (∀ values : List Value, lastConditions (fields.zip values) = ownConditions (fields.zip values) ↔
        ∀ p ∈ fields.zip values, p.1.isKey = true →
          lastValue? p.1.target (fields.zip values) = some p.2) ∧
      ((∀ values : List Value, values.length = fields.length →
          lastConditions (fields.zip values) = ownConditions (fields.zip values)) ↔
        KeysLast fields) := by
  refine ⟨runOn_writeRecord_update keyed record w, ?_, fun values => lastConditions_eq_own,
    keysLast_of_forall, ?_⟩
  · intro outcome w' h updated
    rw [runOn_writeRecord_update keyed] at h
    obtain ⟨values, mid, went, h⟩ := Work.bind_ok h
    have kept := (reads_resolveEach table record fields).of_runOn went
    obtain ⟨changed, affected, executed, rfl⟩ := updateWhere_ok h updated
    rw [kept] at executed
    rw [went]
    exact ⟨values, changed, affected, rfl, executed, rfl⟩
  · intro keysLast values aligned
    exact lastConditions_eq_own.mpr (lastValue?_of_keysLast keysLast aligned)

def keyedHeader : List Field :=
  read [some "Value/K", some "Amount"]

def twinHeader : List Field :=
  read [some "Value/K", some "Value", some "Amount"]

/-- A row with the key cell A, in a header without a second field for the key target. -/
theorem keyed_update_addresses_part :
    KeysLast keyedHeader ∧ ∃ changed after affected,
      Store.execute Store.partStore (.update "Part" changed [("Value", .text "A")]) =
        .ok (after, affected) := by
  have keyed : keys keyedHeader = [Field.read (some "Value/K") 1] := by decide +kernel
  obtain ⟨_, statement, _, header⟩ := keyed_update_addresses "Part" Run.partTemplate
    (.standard (Calendar.Date.midnight ⟨2026, 1, 2⟩)) keyedHeader keyed ⟨2, ["A", "7"]⟩
    Run.partWorkspace
  have keysLast : KeysLast keyedHeader := by
    refine header.mp ?_
    intro values aligned
    obtain ⟨v, u, rfl⟩ : ∃ v u, values = [v, u] := List.length_eq_two.mp aligned
    rfl
  have updated : ((Run.writeRecord "Part" Run.partTemplate
      (.standard (Calendar.Date.midnight ⟨2026, 1, 2⟩)) .update keyedHeader
      ⟨2, ["A", "7"]⟩).runOn Run.partWorkspace).1 = .ok ⟨2, .update, 1, "Value=A"⟩ := by
    decide +kernel
  have found : ((resolveEach "Part" ⟨2, ["A", "7"]⟩ keyedHeader).runOn Run.partWorkspace).1 =
      .ok [.text "A", .whole 7] := by decide +kernel
  obtain ⟨values, changed, affected, each, executed, _⟩ :=
    statement _ _ (Prod.ext updated rfl) rfl
  rw [found] at each
  cases each
  exact ⟨keysLast, changed, _, affected, executed⟩

/-- The cells say A under the key and B behind it; the record of B is changed and that of A is not. -/
theorem twin_target_addresses_other :
    ((resolveEach "Part" ⟨2, ["A", "B", "7"]⟩ twinHeader).runOn Run.partWorkspace).1 =
        .ok [.text "A", .text "B", .whole 7] ∧
      ownConditions (twinHeader.zip [.text "A", .text "B", .whole 7]) = [("Value", .text "A")] ∧
      lastConditions (twinHeader.zip [.text "A", .text "B", .whole 7]) = [("Value", .text "B")] ∧
      ((Run.importLines Run.partTemplate (.standard (Calendar.Date.midnight ⟨2026, 1, 2⟩)) .update
          ["Value/K;Value;Amount", "A;B;7"]).runOn Run.partWorkspace).1.map (·.outcomes) =
        .ok [⟨2, .update, 1, "Value=B"⟩] := by
  refine ⟨?_, ?_, ?_, ?_⟩ <;> decide +kernel

end Write

end RowLoader
