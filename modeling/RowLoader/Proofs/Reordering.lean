import RowLoader.Proofs.KeyedUpdates
import RowLoader.Proofs.Renumbering

/-!
Running lines in another order. The number of a row counts for what is told of it alone, and where no
record of the table is met by two lines, their changes can be made in any order. So a run that updates
by key fields does the same whatever the order of its data lines.
-/

namespace RowLoader

open RowLoader.Header RowLoader.Source RowLoader.Dictionary RowLoader.Store RowLoader.Write
open RowLoader.Resolve RowLoader.Text RowLoader.Identifier

namespace Resolve

theorem toOption_cast (info : Option ColumnInfo) (table : String) (f : Field) (raw : String)
    (row other : Int) :
    (cast info table f raw row).toOption = (cast info table f raw other).toOption := by
  have moved := cast_renumber (row - other) info table f raw other
  have there : other + (row - other) = row := by omega
  rw [there] at moved
  rw [moved, toOption_renumbered, Option.map_id_fun, id_eq]

theorem toOption_plainValue (k : Knowledge) (table : String) (f : Field) (raw : Option String)
    (row other : Int) :
    (plainValue k table f raw row).toOption = (plainValue k table f raw other).toOption := by
  unfold plainValue
  dsimp only
  split
  · rfl
  · split
    · rfl
    · exact toOption_cast (k.info f.target) table f (raw.getD "") row other

theorem toOption_plainValues (k : Knowledge) (table : String) (cells : List String)
    (row other : Int) (fields : List Field) :
    (plainValues k table ⟨row, cells⟩ fields).toOption =
      (plainValues k table ⟨other, cells⟩ fields).toOption := by
  induction fields with
  | nil => rfl
  | cons f rest ih =>
      have cell : Record.cell ⟨row, cells⟩ f = Record.cell ⟨other, cells⟩ f := rfl
      unfold plainValues
      simp only [toOption_bind, cell, ih, toOption_plainValue k table f _ row other]

end Resolve

namespace Write

theorem toOption_keyedStatement (listed : String → Bool) (table : String) (context : Context)
    (first : Field) (keyFields : List Field) (columns : Columns) (row other : Int) :
    (keyedStatement listed table context first keyFields columns row).toOption =
      (keyedStatement listed table context first keyFields columns other).toOption := by
  unfold keyedStatement
  dsimp only
  split
  · rfl
  · split <;> rfl

theorem toOption_conclude (fields : List Field) (row other : Int) (statement : Statement)
    (affected : Nat) :
    (conclude fields row statement affected).toOption =
      (conclude fields other statement affected).toOption.map fun o => { o with row } := by
  unfold conclude
  cases statement with
  | insert table columns => rfl
  | update table sets conditions =>
      cases keys fields with
      | nil => rfl
      | cons first rest =>
          dsimp only
          split <;> rfl

end Write

namespace Run

namespace KeyedRun

variable {run : KeyedRun} {s : Store}

theorem toOption_statement (run : KeyedRun) (cells : List String) (row other : Int) :
    (run.statement ⟨row, cells⟩).toOption = (run.statement ⟨other, cells⟩).toOption := by
  unfold statement
  simp only [toOption_bind, toOption_mapError,
    toOption_plainValues run.knows run.table cells row other]
  congr 1
  funext values
  exact toOption_keyedStatement _ _ _ _ _ _ row other

theorem toOption_alone_eq (run : KeyedRun) (s : Store) (record : Record) :
    (run.alone s record).toOption = (run.statement record).toOption.bind fun
      | none => some (nothingToUpdate record.row)
      | some statement => (execute s statement).toOption.bind fun r =>
          (conclude run.fields record.row statement r.2).toOption := by
  unfold alone step
  cases run.statement record with
  | error e => rfl
  | ok prepared =>
      cases prepared with
      | none => rfl
      | some statement =>
          rw [except_ok_bind]
          dsimp only [Except.toOption, Option.bind_some]
          cases execute s statement with
          | error e => rfl
          | ok r =>
              rw [except_ok_bind]
              dsimp only [Option.bind_some]
              cases conclude run.fields record.row statement r.2 <;> rfl

theorem toOption_alone (run : KeyedRun) (s : Store) (cells : List String) (row other : Int) :
    (run.alone s ⟨row, cells⟩).toOption =
      (run.alone s ⟨other, cells⟩).toOption.map fun o => { o with row } := by
  rw [toOption_alone_eq, toOption_alone_eq, toOption_statement run cells row other]
  cases (run.statement ⟨other, cells⟩).toOption with
  | none => rfl
  | some prepared =>
      cases prepared with
      | none => rfl
      | some statement =>
          dsimp only [Option.bind_some]
          cases (execute s statement).toOption with
          | none => rfl
          | some r => exact toOption_conclude run.fields row other statement r.2

theorem changes_row (run : KeyedRun) (s : Store) (cells : List String) (row other : Int) :
    run.changes s ⟨row, cells⟩ = run.changes s ⟨other, cells⟩ := by
  have same := toOption_statement run cells row other
  unfold changes
  cases first : run.statement ⟨row, cells⟩ with
  | error e =>
      cases second : run.statement ⟨other, cells⟩ with
      | error e' => rfl
      | ok prepared =>
          rw [first, second] at same
          cases same
  | ok prepared =>
      rw [first] at same
      rw [toOption_eq_some.mp same.symm]

/-- What is told of a line that comes first, but for its number. -/
def tells (run : KeyedRun) (s : Store) (separator : Separator) (line : String) : Option Outcome :=
  (run.alone s (recordOf run.fields separator 0 line)).toOption

def outcomeOf (run : KeyedRun) (s : Store) (separator : Separator) (line : String) : Outcome :=
  (run.tells s separator line).getD (nothingToUpdate 0)

theorem alone_recordOf {separator : Separator} {row : Int} {line : String} {outcome : Outcome} :
    run.alone s (recordOf run.fields separator row line) = .ok outcome ↔
      (run.tells s separator line).isSome ∧
        outcome = { run.outcomeOf s separator line with row } := by
  have same := toOption_alone run s ((cellsOf separator line).take run.fields.length) row 0
  unfold outcomeOf tells
  change (run.alone s (recordOf run.fields separator row line)).toOption =
    (run.alone s (recordOf run.fields separator 0 line)).toOption.map _ at same
  rw [← toOption_eq_some, same]
  cases (run.alone s (recordOf run.fields separator 0 line)).toOption with
  | none => simp
  | some told => simp [eq_comm]

theorem forall₂_alone {separator : Separator} {firstRow : Int} {lines : List String}
    {outcomes : List Outcome} :
    List.Forall₂ (fun record outcome => run.alone s record = .ok outcome)
        (lines.mapIdx fun i line => recordOf run.fields separator (firstRow + i) line) outcomes ↔
      (∀ line ∈ lines, (run.tells s separator line).isSome) ∧
        outcomes = lines.mapIdx fun i line =>
          { run.outcomeOf s separator line with row := firstRow + i } := by
  induction lines generalizing firstRow outcomes with
  | nil => simp
  | cons line rest ih =>
      have shifted : ∀ i : Nat, firstRow + ((i + 1 : Nat) : Int) = firstRow + 1 + i := by omega
      simp only [List.mapIdx_cons, shifted, List.forall₂_cons_left_iff, ih, alone_recordOf,
        List.forall_mem_cons]
      constructor
      · rintro ⟨told, others, ⟨succeeds, rfl⟩, ⟨later, rfl⟩, rfl⟩
        exact ⟨⟨succeeds, later⟩, rfl⟩
      · rintro ⟨⟨succeeds, later⟩, rfl⟩
        exact ⟨_, _, ⟨succeeds, rfl⟩, ⟨later, rfl⟩, rfl⟩

theorem flatMap_changes (run : KeyedRun) (s : Store) (separator : Separator) (firstRow : Int)
    (lines : List String) :
    (lines.mapIdx fun i line => recordOf run.fields separator (firstRow + i) line).flatMap
        (run.changes s) =
      lines.flatMap fun line => run.changes s (recordOf run.fields separator 0 line) := by
  induction lines generalizing firstRow with
  | nil => rfl
  | cons line rest ih =>
      have shifted : ∀ i : Nat, firstRow + ((i + 1 : Nat) : Int) = firstRow + 1 + i := by omega
      have here : run.changes s (recordOf run.fields separator (firstRow + (0 : Nat)) line) =
          run.changes s (recordOf run.fields separator 0 line) := changes_row run s _ _ 0
      simp only [List.mapIdx_cons, shifted, List.flatMap_cons, ih, here]

/-- Lines succeed exactly when nothing is wrong with them and each of them succeeds by itself; then of
each line is told what is told of it by itself, and all their changes are made. -/
theorem answer_iff (tame : run.TameIn s) {p : Plan} (headed : p.fields = run.fields)
    {outcomes : List Outcome} {s' : Store} :
    run.answer s p = .ok (outcomes, s') ↔
      (p.problems = [] ∧ ∀ line ∈ p.data, (run.tells s p.separator line).isSome) ∧
        outcomes = p.data.mapIdx (fun i line =>
          { run.outcomeOf s p.separator line with row := p.firstRow + i }) ∧
        s' = run.rewrite s (applyAll (run.target s) (p.data.flatMap fun line =>
          run.changes s (recordOf run.fields p.separator 0 line))) := by
  rw [answer_ok, and_assoc]
  refine and_congr_right fun sound => ?_
  rw [steps_iff tame, Plan.records_eq sound, headed, forall₂_alone, flatMap_changes, and_assoc]

end KeyedRun

/-- The rows of the table that are met by the key values of a record, as its cells are resolved when the
run begins. -/
def metRows (w : Workspace) (table : String) (fields : List Field) (record : Record) : List Row :=
  (do
    let t ← w.store.table? (bare table)
    let values ← ((resolveEach table record fields).runOn (begun w)).1.toOption
    let named := keyConditions (keys fields) (enterValues [] (fields.zip values))
    let conditions ← (conditionsOf t w.store.now (named.map fun (c : String × Value) =>
      (c.1, Store.bind c.2))).toOption
    return t.select conditions).getD []

def ShareNoRow (w : Workspace) (table : String) (fields : List Field) (records : List Record) : Prop :=
  records.Pairwise fun a b =>
    ∀ r ∈ metRows w table fields a, r ∉ metRows w table fields b

instance (w : Workspace) (table : String) (fields : List Field) (records : List Record) :
    Decidable (ShareNoRow w table fields records) :=
  inferInstanceAs (Decidable (records.Pairwise fun a b =>
    ∀ r ∈ metRows w table fields a, r ∉ metRows w table fields b))

theorem KeyedRun.Begins.meets {run : KeyedRun} {w : Workspace} (begins : run.Begins (begun w))
    {record : Record} {outcome : Outcome} (succeeds : run.alone w.store record = .ok outcome)
    {change : Change} (made : change ∈ run.changes w.store record) {r : Row}
    (member : r ∈ (run.target w.store).rows)
    (met : (run.target w.store).meets change.conditions r = true) :
    r ∈ metRows w run.table run.fields record := by
  obtain ⟨sets, conditions, _, stated, executed, rfl⟩ := KeyedRun.changes_ok succeeds made
  obtain ⟨there, _, conditioned⟩ := execute_update_placed executed
  obtain ⟨values, each, stated⟩ := except_bind_ok stated
  obtain ⟨_, ran, _⟩ := runOn_resolveEach_plain begins.usable begins.sound run.table record
    begins.plain
  rw [← begins.knows, each] at ran
  cases built : keyedStatement run.knows.listed run.table run.context run.first (keys run.fields)
      (enterValues [] (run.fields.zip values)) record.row with
  | error e =>
      rw [built] at stated
      cases stated
  | ok statement =>
      rw [built] at stated
      cases stated
      obtain ⟨same, _⟩ := keyedStatement_ok built
      cases same
      unfold metRows
      rw [there, congrArg Prod.fst ran]
      dsimp only [Except.toOption, Option.bind_eq_bind, Option.bind_some]
      rw [conditioned]
      exact List.mem_filter.mpr ⟨member, met⟩

theorem length_filter_le_one {α : Type} {p : α → Bool} {xs : List α}
    (apart : xs.Pairwise fun a b => ¬ (p a = true ∧ p b = true)) : (xs.filter p).length ≤ 1 := by
  induction xs with
  | nil => simp
  | cons x rest ih =>
      obtain ⟨first, later⟩ := List.pairwise_cons.mp apart
      by_cases met : p x = true
      · have none : rest.filter p = [] :=
          List.filter_eq_nil_iff.mpr fun b member also => first b member ⟨met, also⟩
        simp [met, none]
      · rw [List.filter_cons_of_neg met]
        exact ih later

/-- Of records that succeed and share no row, a row meets one change at most. -/
theorem KeyedRun.Begins.meets_once {run : KeyedRun} {w : Workspace} (begins : run.Begins (begun w))
    {records : List Record} {outcomes : List Outcome}
    (each : List.Forall₂ (fun record outcome => run.alone w.store record = .ok outcome) records
      outcomes)
    (unshared : ShareNoRow w run.table run.fields records) {r : Row}
    (member : r ∈ (run.target w.store).rows) :
    ((records.flatMap (run.changes w.store)).filter fun change =>
      (run.target w.store).meets change.conditions r).length ≤ 1 := by
  refine length_filter_le_one (List.pairwise_flatMap.mpr ⟨?_, ?_⟩)
  · intro record _
    unfold KeyedRun.changes
    split
    · exact List.pairwise_singleton _ _
    · exact .nil
  · refine unshared.imp_of_mem ?_
    rintro a b inA inB apart change madeA other madeB ⟨metA, metB⟩
    obtain ⟨_, _, succeedsA⟩ := mem_left_of_forall₂ each inA
    obtain ⟨_, _, succeedsB⟩ := mem_left_of_forall₂ each inB
    exact apart r (begins.meets succeedsA madeA member metA)
      (begins.meets succeedsB madeB member metB)

/-- Lines that share no row do the same to a store in every order. -/
theorem KeyedRun.Begins.answer_perm {run : KeyedRun} {w : Workspace} (begins : run.Begins (begun w))
    (tame : run.TameIn w.store) {p : Plan} (headed : p.fields = run.fields) {others : List String}
    (perm : others.Perm p.data) (unshared : ShareNoRow w run.table run.fields p.records) :
    ((∃ r, run.answer w.store p = .ok r) ↔
        ∃ r, run.answer w.store { p with data := others } = .ok r) ∧
      ∀ outcomes s outcomes' s', run.answer w.store p = .ok (outcomes, s) →
        run.answer w.store { p with data := others } = .ok (outcomes', s') → s' = s := by
  have reheaded : ({ p with data := others } : Plan).fields = run.fields := headed
  constructor
  · have sound : p.problems = [] ↔ ({ p with data := others } : Plan).problems = [] :=
      problemsOf_perm perm.symm
    simp only [Prod.exists, KeyedRun.answer_iff tame headed, KeyedRun.answer_iff tame reheaded,
      exists_and_left, exists_eq, and_true, sound, perm.mem_iff]
  · intro outcomes s outcomes' s' first second
    obtain ⟨sound, stepped⟩ := KeyedRun.answer_ok.mp first
    obtain ⟨each, _⟩ := (KeyedRun.steps_iff tame).mp stepped
    obtain ⟨_, _, rfl⟩ := (KeyedRun.answer_iff tame headed).mp first
    obtain ⟨_, _, rfl⟩ := (KeyedRun.answer_iff tame reheaded).mp second
    have lined : p.records.flatMap (run.changes w.store) = p.data.flatMap fun line =>
        run.changes w.store (recordOf run.fields p.separator 0 line) := by
      rw [Plan.records_eq sound, headed, KeyedRun.flatMap_changes]
    have within := KeyedRun.within_flatMap tame each
    have once := fun r member => begins.meets_once each unshared (r := r) member
    rw [lined] at within once
    -- row by row: at most one of the changes touches a row, so their order does not count there
    refine congrArg w.store.replaceTable (Table.mapRows_congr ?_)
    intro r member
    exact applyAll_perm (perm.symm.flatMap_right _) within (once r member)

/-- A run that updates by key fields does not depend on the order of its data lines, where its targets
are different names, none of them is looked up, the time and the user of a change are no keys, nothing
that it sets is the id or a unique column, its table is none of the dictionary, and no record of the table
is met by the key values of two lines. It succeeds in every order or in none; and where it succeeds it
leaves the same store, and tells of every line the same but for its number. -/
theorem update_reorders {template : Template} {context : Context} {head : String}
    {lines others : List String} {w : Workspace} {table : String} (sound : w.store.WellFormed)
    (named : ((tableOf template).runOn w).1 = .ok table)
    (unstored : Template.tokens template.header = none)
    (header : KeyedHeader table (filePlan head lines).fields)
    (common : SetsCommon w.store table (filePlan head lines).fields)
    (unshared : ShareNoRow w table (filePlan head lines).fields (filePlan head lines).records)
    (perm : others.Perm lines) :
    ((∃ report, ((runLines (some template) context .update (head :: lines)).runOn w).1 =
          .ok report) ↔
        ∃ report, ((runLines (some template) context .update (head :: others)).runOn w).1 =
          .ok report) ∧
      ∀ report report',
        ((runLines (some template) context .update (head :: lines)).runOn w).1 = .ok report →
        ((runLines (some template) context .update (head :: others)).runOn w).1 = .ok report' →
        ((runLines (some template) context .update (head :: others)).runOn w).2.store =
            ((runLines (some template) context .update (head :: lines)).runOn w).2.store ∧
          ∃ outcomeOf : String → Outcome,
            report.outcomes = lines.mapIdx (fun i line => { outcomeOf line with row := 2 + i }) ∧
              report'.outcomes =
                others.mapIdx fun i line => { outcomeOf line with row := 2 + i } := by
  obtain ⟨first, rest, keyed⟩ := List.exists_cons_of_ne_nil header.keyed
  obtain ⟨usable, _⟩ := tableOf_ok named
  have planned := plan_of_file unstored head
  let run := keyedRun w table context (filePlan head lines).fields first
  have begins : run.Begins (begun w) := header.begins usable sound context keyed
  have tame : run.TameIn w.store :=
    header.tameIn common (bare_target_of_plan (planned lines)) context first
  obtain ⟨u, first, after⟩ := begins.runOn_runLines named (planned lines) rfl
  obtain ⟨v, second, later⟩ := begins.runOn_runLines named (planned others) rfl
  have ran : (runLines (some template) context .update (head :: lines)).runOn w = _ := first
  have reran : (runLines (some template) context .update (head :: others)).runOn w = _ := second
  have headed : (filePlan head others).fields = run.fields := rfl
  obtain ⟨both, same⟩ := begins.answer_perm tame rfl perm unshared
  rw [ran, reran]
  constructor
  · simp only [except_map_ok]
    constructor
    · rintro ⟨report, r, done, _⟩
      obtain ⟨r', redone⟩ := both.mp ⟨r, done⟩
      exact ⟨_, r', redone, rfl⟩
    · rintro ⟨report, r, done, _⟩
      obtain ⟨r', redone⟩ := both.mpr ⟨r, done⟩
      exact ⟨_, r', redone, rfl⟩
  · intro report report' told retold
    obtain ⟨⟨outcomes, s⟩, done, rfl⟩ := except_map_ok.mp told
    obtain ⟨⟨outcomes', s'⟩, redone, rfl⟩ := except_map_ok.mp retold
    obtain ⟨_, each, _⟩ := (KeyedRun.answer_iff tame rfl).mp done
    obtain ⟨_, reach, _⟩ := (KeyedRun.answer_iff tame headed).mp redone
    rw [outcomes_told, outcomes_told]
    refine ⟨?_, run.outcomeOf w.store (separatorOf head), each, reach⟩
    exact (later _ redone).1.trans ((same _ _ _ _ done redone).trans (after _ done).1.symm)

/-- Two amounts can be set one way round or the other. -/
theorem update_reorders_parts :
    ∃ report,
      ((runLines (some partTemplate) (.standard (Calendar.Date.midnight ⟨2026, 1, 2⟩)) .update
          ["Value/K;Amount", "B;1", "A;7"]).runOn partWorkspace).1 = .ok report ∧
        ((runLines (some partTemplate) (.standard (Calendar.Date.midnight ⟨2026, 1, 2⟩)) .update
            ["Value/K;Amount", "B;1", "A;7"]).runOn partWorkspace).2.store =
          ((runLines (some partTemplate) (.standard (Calendar.Date.midnight ⟨2026, 1, 2⟩)) .update
            ["Value/K;Amount", "A;7", "B;1"]).runOn partWorkspace).2.store := by
  have sound : partWorkspace.store.WellFormed := Store.wellFormed_partStore
  have named : ((tableOf partTemplate).runOn partWorkspace).1 = .ok "Part" := by decide +kernel
  have unstored : Template.tokens partTemplate.header = none := by decide +kernel
  have header : KeyedHeader "Part" (filePlan "Value/K;Amount" ["A;7", "B;1"]).fields := by
    decide +kernel
  have common : SetsCommon partWorkspace.store "Part"
      (filePlan "Value/K;Amount" ["A;7", "B;1"]).fields := by decide +kernel
  have unshared : ShareNoRow partWorkspace "Part"
      (filePlan "Value/K;Amount" ["A;7", "B;1"]).fields
      (filePlan "Value/K;Amount" ["A;7", "B;1"]).records := by decide +kernel
  have swapped : ["B;1", "A;7"].Perm ["A;7", "B;1"] := .swap _ _ _
  have answer : ((runLines (some partTemplate) (.standard (Calendar.Date.midnight ⟨2026, 1, 2⟩))
      .update ["Value/K;Amount", "A;7", "B;1"]).runOn partWorkspace).1 =
        .ok (told "Part" (filePlan "Value/K;Amount" ["A;7", "B;1"])
          [⟨2, .update, 1, "Value=A"⟩, ⟨3, .update, 1, "Value=B"⟩]) := by decide +kernel
  obtain ⟨both, same⟩ := @update_reorders partTemplate
    (.standard (Calendar.Date.midnight ⟨2026, 1, 2⟩)) "Value/K;Amount" ["A;7", "B;1"]
    ["B;1", "A;7"] partWorkspace "Part" sound named unstored header common unshared swapped
  obtain ⟨report, done⟩ := both.mp ⟨_, answer⟩
  exact ⟨report, done, (same _ report answer done).1⟩

/-- The ids of rows can be set where they are no primary key, and unique columns where they are none, and
then the order of lines counts: the id or the name of the first part is free for the second one only
after the first has left it. -/
theorem distinct_values_count_order :
    (codedWorkspace.store.WellFormed ∧
      KeyedHeader "Part" (filePlan "No/K;rowid" ["1;3", "2;1"]).fields ∧
      SparesPrimary codedWorkspace.store "Part" (filePlan "No/K;rowid" ["1;3", "2;1"]).fields ∧
      ShareNoRow codedWorkspace "Part" (filePlan "No/K;rowid" ["1;3", "2;1"]).fields
        (filePlan "No/K;rowid" ["1;3", "2;1"]).records ∧
      ((updateParts ["No/K;rowid", "1;3", "2;1"]).runOn codedWorkspace).1 =
        .ok (told "Part" (filePlan "No/K;rowid" ["1;3", "2;1"])
          [⟨2, .update, 1, "No=1"⟩, ⟨3, .update, 1, "No=2"⟩]) ∧
      ((updateParts ["No/K;rowid", "2;1", "1;3"]).runOn codedWorkspace).1 =
        .error (.store (.takenKey "Part" "rowid"))) ∧
    namedWorkspace.store.WellFormed ∧
      KeyedHeader "Part" (filePlan "No/K;Name" ["1;C", "2;A"]).fields ∧
      SparesPrimary namedWorkspace.store "Part" (filePlan "No/K;Name" ["1;C", "2;A"]).fields ∧
      ShareNoRow namedWorkspace "Part" (filePlan "No/K;Name" ["1;C", "2;A"]).fields
        (filePlan "No/K;Name" ["1;C", "2;A"]).records ∧
      ((updateParts ["No/K;Name", "1;C", "2;A"]).runOn namedWorkspace).1 =
        .ok (told "Part" (filePlan "No/K;Name" ["1;C", "2;A"])
          [⟨2, .update, 1, "No=1"⟩, ⟨3, .update, 1, "No=2"⟩]) ∧
      ((updateParts ["No/K;Name", "2;A", "1;C"]).runOn namedWorkspace).1 =
        .error (.store (.takenKey "Part" "Name")) := by
  refine ⟨⟨wellFormed_codedStore, ?_, ?_, ?_, ?_, ?_⟩, wellFormed_namedStore, ?_, ?_, ?_, ?_, ?_⟩ <;>
    decide +kernel

end Run

end RowLoader
