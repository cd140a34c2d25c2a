import RowLoader.Proofs.Parallel
import RowLoader.Proofs.Renumbering
import RowLoader.Proofs.Reruns

/-!
Importing a file in two files. The lines of one file can be imported in two runs, the second on the store
that the first has left, unless a key cell of the first file comes again in the second; and then both
runs together do what one run does.
-/

namespace RowLoader

open RowLoader.Header RowLoader.Dictionary RowLoader.Store RowLoader.Resolve
open RowLoader.Text RowLoader.Identifier RowLoader.Source

namespace Source

/-- No line of two files has the cell of a line of the other for a key field. -/
def ShareNoKey (fields : List Field) (separator : Separator) (lines others : List String) : Prop :=
  ∀ f ∈ keys fields, ∀ line ∈ lines, ∀ l ∈ others, lineCell separator line f ≠ lineCell separator l f

instance (fields : List Field) (separator : Separator) (lines others : List String) :
    Decidable (ShareNoKey fields separator lines others) := by
  unfold ShareNoKey
  infer_instance

theorem problemsOf_append_eq_nil {fields : List Field} {separator : Separator} {firstRow : Int}
    {lines others : List String} :
    problemsOf fields separator firstRow (lines ++ others) = [] ↔
      problemsOf fields separator firstRow lines = [] ∧
        problemsOf fields separator firstRow others = [] ∧
        ShareNoKey fields separator lines others := by
  have shared : ShareNoKey fields separator lines others ↔ ∀ a ∈ lines, ∀ b ∈ others,
      ∀ f ∈ keys fields, lineCell separator a f ≠ lineCell separator b f :=
    ⟨fun h a ha b hb f hf => h f hf a ha b hb, fun h f hf a ha b hb => h a ha b hb f hf⟩
  rw [shared]
  simp only [problemsOf_eq_nil_iff, List.forall_mem_append, List.pairwise_append]
  tauto

theorem recordsFrom_append (fields : List Field) (separator : Separator) (row : Int)
    (lines others : List String) :
    recordsFrom fields separator row (lines ++ others) =
      recordsFrom fields separator row lines ++
        (recordsFrom fields separator row others).map (Record.renumber lines.length) := by
  rw [← recordsFrom_renumber]
  induction lines generalizing row with
  | nil => simp [recordsFrom]
  | cons line rest ih =>
      have later : row + 1 + (rest.length : Int) = row + ((rest.length + 1 : Nat) : Int) := by
        omega
      rw [List.cons_append, recordsFrom, recordsFrom, ih, later, List.length_cons]
      split <;> rfl

end Source

namespace Run

/-- A workspace goes on after a run: it takes up where the run has ended, and draws the unique ids that
come next. -/
structure GoesOn (w w' v : Workspace) : Prop extends TakesUp w w' v where
  ids : v.uniqueId = w'.uniqueId
  drawn : v.drawn = w'.drawn

section

variable {template : Template} {context : Context} {mode : Action} {table : String}
  {fields : List Field} {w u v : Workspace}

theorem alike_of_writeEach (sound : w.store.WellFormed)
    (named : ((tableOf template).runOn w).1 = .ok table) (beside : Beside (bare table))
    {records : List Record} {outcomes : List Outcome}
    (ran : (writeEach table template context mode fields records).runOn (begun w) =
      (.ok outcomes, u)) : Alike (begun w) (begun w) u u := by
  have usable : (begun w).breakdown = none := (tableOf_ok named).1
  have solid : (begun w).store.WellFormed := sound
  obtain ⟨_, after⟩ := parallel_writeEach solid solid rfl beside template context mode fields records
    _ _ (Alike.refl usable solid)
  rw [ran] at after
  exact after _ rfl

theorem GoesOn.begins (sound : w.store.WellFormed)
    (named : ((tableOf template).runOn w).1 = .ok table) (came : Alike (begun w) (begun w) u u)
    (goesOn : GoesOn w { u with memo := w.memo.resume u.memo } v) :
    ((tableOf template).runOn v).1 = .ok table ∧ v.store.WellFormed ∧
      known (begun v) table = known (begun w) table ∧ Alike (begun w) (begun v) u (begun v) := by
  have same : v.store = u.store := goesOn.store
  have soundV : v.store.WellFormed := same ▸ came.left.sound
  have tables : v.store.table? tableTable = w.store.table? tableTable := same ▸ came.left.tables
  have columns : v.store.table? columnTable = w.store.table? columnTable := same ▸ came.left.columns
  have tabs : v.store.table? tabTable = w.store.table? tabTable := same ▸ came.tabs
  refine ⟨?_, soundV, known_begun soundV sound tables columns goesOn.readings table, ?_⟩
  · have shown := (tableOfTab_congr tabs tables template.tab).trans (tableOf_ok named).2
    rw [runOn_tableOf goesOn.usable shown]
  · exact ⟨came.left, .refl goesOn.usable soundV, came.tabs, same, goesOn.ids, goesOn.drawn⟩

/-- Behind the records of a run and in a run that goes on after it, records are written alike. -/
theorem GoesOn.writes_alike (sound : w.store.WellFormed)
    (named : ((tableOf template).runOn w).1 = .ok table) (beside : Beside (bare table))
    (came : Alike (begun w) (begun w) u u)
    (goesOn : GoesOn w { u with memo := w.memo.resume u.memo } v) (records : List Record) :
    (∀ outcomes,
      (∃ u', (writeEach table template context mode fields records).runOn u = (.ok outcomes, u')) ↔
        ∃ v', (writeEach table template context mode fields records).runOn (begun v) =
          (.ok outcomes, v')) ∧
      ∀ outcomes others u' v',
        (writeEach table template context mode fields records).runOn u = (.ok outcomes, u') →
        (writeEach table template context mode fields records).runOn (begun v) = (.ok others, v') →
        others = outcomes ∧ v'.store = u'.store := by
  obtain ⟨_, soundV, knows, alike⟩ := goesOn.begins sound named came
  have solid : (begun w).store.WellFormed := sound
  have solidV : (begun v).store.WellFormed := soundV
  obtain ⟨same, after⟩ := parallel_writeEach solid solidV knows beside template context mode fields
    records u (begun v) alike
  refine ⟨?_, ?_⟩
  · intro outcomes
    constructor
    · rintro ⟨u', went⟩
      rw [went] at same
      exact Work.leaves_of_ok same
    · rintro ⟨v', went⟩
      rw [went] at same
      exact Work.leaves_of_ok same.symm
  · intro outcomes others u' v' went rewent
    rw [went, rewent] at same after
    cases same
    exact ⟨rfl, (after _ rfl).store⟩

/-- Records are written behind others where those are written first, and these in what they leave; under
numbers that are raised they are told of under these. -/
theorem writeEach_behind_ok_iff {k : Int} {records behind : List Record} {outcomes : List Outcome} :
    (writeEach table template context mode fields (records ++ behind.map (Record.renumber k))).runOn
        w = (.ok outcomes, v) ↔
      ∃ first u second, (writeEach table template context mode fields records).runOn w =
          (.ok first, u) ∧
        (writeEach table template context mode fields behind).runOn u = (.ok second, v) ∧
        outcomes = first ++ second.map (Outcome.renumber k) := by
  rw [writeEach_append]
  constructor
  · intro h
    obtain ⟨first, u, written, h⟩ := Work.bind_ok h
    obtain ⟨told, last, went, h⟩ := Work.bind_ok h
    obtain ⟨rfl, rfl⟩ := Work.pure_ok h
    rw [renumbers_writeEach] at went
    obtain ⟨second, answer, rfl⟩ := renumbered_eq_ok.mp (congrArg Prod.fst went)
    exact ⟨first, u, second, written, Prod.ext answer (Prod.mk.inj went).2, rfl⟩
  · rintro ⟨first, u, second, written, went, rfl⟩
    rw [Work.runOn_bind_of_ok written, Work.runOn_bind, renumbers_writeEach, went]
    rfl

theorem runLines_append_ok_iff (named : ((tableOf template).runOn w).1 = .ok table)
    (unstored : Template.tokens template.header = none) (context : Context) (mode : Action)
    (head : String) (lines others : List String) {report : Report} :
    (runLines (some template) context mode (head :: (lines ++ others))).runOn w = (.ok report, v) ↔
      checkMode mode = .ok () ∧ (filePlan head lines).problems = [] ∧
        (filePlan head others).problems = [] ∧
        ShareNoKey (filePlan head lines).fields (separatorOf head) lines others ∧
        ∃ first u second u',
          (writeEach table template context mode (filePlan head lines).fields
            (filePlan head lines).records).runOn (begun w) = (.ok first, u) ∧
          (writeEach table template context mode (filePlan head lines).fields
            (filePlan head others).records).runOn u = (.ok second, u') ∧
          report = ((filePlan head (lines ++ others)).report table mode).addAll
            (first ++ second.map (Outcome.renumber lines.length)) ∧
          v = { u' with memo := w.memo.resume u'.memo } := by
  have clean : (filePlan head (lines ++ others)).problems = [] ↔ (filePlan head lines).problems = [] ∧
      (filePlan head others).problems = [] ∧
      ShareNoKey (filePlan head lines).fields (separatorOf head) lines others :=
    problemsOf_append_eq_nil
  have recorded : (filePlan head (lines ++ others)).records = (filePlan head lines).records ++
      (filePlan head others).records.map (Record.renumber lines.length) :=
    recordsFrom_append _ _ _ _ _
  rw [runLines_ok_iff named (plan_of_file unstored head _), clean, recorded]
  simp only [writeEach_behind_ok_iff, and_assoc]
  refine and_congr_right fun _ => and_congr_right fun _ => and_congr_right fun _ =>
    and_congr_right fun _ => ?_
  constructor
  · rintro ⟨outcomes, u', ⟨first, u, second, written, went, rfl⟩, told, left⟩
    exact ⟨first, u, second, u', written, went, told, left⟩
  · rintro ⟨first, u, second, u', written, went, told, left⟩
    exact ⟨_, u', ⟨first, u, second, written, went, rfl⟩, told, left⟩

end

def partsRun (lines : List String) : Work Report :=
  runLines (some partTemplate) (.standard (Calendar.Date.midnight ⟨2026, 1, 2⟩)) .insert
    ("Value/K;Amount" :: lines)

def partsReport (outcomes : List Outcome) : Report :=
  ({ Report.empty with table := some "Part", totalRows := outcomes.length } : Report).addAll outcomes

end Run

end RowLoader
