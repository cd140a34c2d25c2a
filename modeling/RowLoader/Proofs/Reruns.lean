import RowLoader.Proofs.KeyedUpdates

/-!
Running a file again. A run that updates by key fields leaves a store in which the same rows meet the
same conditions, and holds what its last change of each row assigned; so the same run on that store
tells the same and changes nothing.
-/

namespace RowLoader

namespace Dictionary

/-- A memory that has readings of those rows only that it has found. -/
def Recall.Held (m : Recall) : Prop :=
  ∀ id, (m.reading? id).isSome → m.found.any (fun f => f.2 = some id) = true

theorem lookup_filter_key {α β : Type} [BEq α] [LawfulBEq α] (keep : α → Bool) (k : α)
    (pairs : List (α × β)) :
    (pairs.filter fun p => keep p.1).lookup k = if keep k then pairs.lookup k else none := by
  induction pairs with
  | nil => simp
  | cons p rest ih =>
      obtain ⟨key, v⟩ := p
      by_cases same : k = key
      · subst same
        cases kept : keep k <;> simp [kept, ih]
      · have apart : (k == key) = false := beq_false_of_ne same
        cases kept : keep key <;> simp [List.lookup_cons, kept, apart, ih]

theorem reading?_resume (before after : Recall) (id : Int) :
    (before.resume after).reading? id =
      if before.found.any (fun f => f.2 = some id) then after.reading? id else none := by
  have kept := lookup_filter_key (fun id => before.found.any fun f => f.2 = some id) id
    after.readings
  unfold Recall.reading? Recall.resume
  dsimp only
  rw [kept]
  split <;> rfl

theorem held_resume (before after : Recall) : (before.resume after).Held := by
  intro id known
  rw [reading?_resume] at known
  split at known
  · assumption
  · cases known

/-- What is read with the memory that a piece of work leaves is what was read before. -/
theorem consult_resume {s : Store} (sound : s.WellFormed) {before after : Recall}
    (held : before.Held) (more : ({ before with found := [] } : Recall).Extends s after) (id : Int) :
    (consult s (before.resume after) id).1 = (consult s before id).1 := by
  have later := consult_of_extends sound more id
  rw [consult_fst, consult_fst] at later ⊢
  rw [reading?_resume]
  split
  · exact later
  · rename_i unknown
    have none : before.reading? id = none := by
      simpa using fun known => unknown (held id known)
    rw [none]

theorem tableOfTab_congr {s s' : Store} (tabs : s'.table? tabTable = s.table? tabTable)
    (tables : s'.table? tableTable = s.table? tableTable) (tab : Option Int) :
    tableOfTab s' tab = tableOfTab s tab := by
  unfold tableOfTab intOf? textOf cellOf rowsOf
  rw [tabs, tables]

end Dictionary

namespace Run

open RowLoader.Header RowLoader.Source RowLoader.Dictionary RowLoader.Store RowLoader.Write
open RowLoader.Resolve RowLoader.Identifier

/-- A workspace takes up where a run has ended: it can be used and holds the store that the run left, and
what it reads of the dictionary is what the run could read. -/
structure TakesUp (w w' v : Workspace) : Prop where
  store : v.store = w'.store
  usable : v.breakdown = none
  readings : ∀ id, (consult w.store v.memo id).1 = (consult w.store w.memo id).1

theorem known_begun {v w : Workspace} (soundV : v.store.WellFormed) (sound : w.store.WellFormed)
    (tables : v.store.table? tableTable = w.store.table? tableTable)
    (columns : v.store.table? columnTable = w.store.table? columnTable)
    (readings : ∀ id, (consult w.store v.memo id).1 = (consult w.store w.memo id).1)
    (table : String) : known (begun v) table = known (begun w) table := by
  refine @known_congr (begun v) (begun w) soundV sound table ?_ ?_
  · intro column
    rw [locate_fst, locate_fst]
    exact congrArg (Option.map (·.id)) (find?_congr tables columns _ _)
  · intro id
    have read := (consult_congr columns v.memo id).trans (readings id)
    rw [consult_fst, consult_fst] at read ⊢
    exact read

/-- A workspace when the clock of its store shows some moment. -/
def showing (v : Workspace) (now : Calendar.Timestamp) : Workspace :=
  { v with store := v.store.showing now }

/-- A run that updates by key fields and succeeds can be run again, where its targets are different
names, none of them is looked up, the time and the user of a change are no keys, nothing that it sets is
the id or a unique column, and its table is none of the dictionary: the same lines in the same context
succeed on the store that they left, leave it as it is, and get the same report. The clock may show any
moment by then, unless a key is a word for the present one. The workspace that the run left takes up where
it ended, unless it had readings of rows that it never found; after a run it has none of these. -/
theorem update_reruns {template : Template} {context : Context} {lines : List String}
    {w w' : Workspace} {table : String} {p : Plan} {report : Report} (sound : w.store.WellFormed)
    (named : ((tableOf template).runOn w).1 = .ok table)
    (planned : plan template.header lines = .ok p) (header : KeyedHeader table p.fields)
    (common : SetsCommon w.store table p.fields)
    (ran : (runLines (some template) context .update lines).runOn w = (.ok report, w')) :
    (∀ v, TakesUp w w' v → ∀ now,
        (now ≠ v.store.now → ∀ f ∈ keys p.fields, isAmong clockWords f.target = false) →
        ((runLines (some template) context .update lines).runOn (showing v now)).1 = .ok report ∧
          ((runLines (some template) context .update lines).runOn (showing v now)).2.store =
            v.store.showing now) ∧
      (w.memo.Held → TakesUp w w' w') ∧ w'.memo.Held := by
  obtain ⟨first, rest, keyed⟩ := List.exists_cons_of_ne_nil header.keyed
  obtain ⟨usable, shown⟩ := tableOf_ok named
  let run := keyedRun w table context p.fields first
  have begins : run.Begins (begun w) := header.begins usable sound context keyed
  have tame : run.TameIn w.store := header.tameIn common (bare_target_of_plan planned) context first
  obtain ⟨outcomes, u, went, rfl, rfl, sees⟩ := begins.runLines_ok named planned rfl ran
  have others : ∀ d ∈ dictionaryTables, u.store.table? d = w.store.table? d :=
    fun d member => KeyedRun.answer_table? tame went (header.beside d member)
  refine ⟨?_, ?_, held_resume w.memo u.memo⟩
  · intro v takes now timed
    have same : v.store = u.store := takes.store
    have kept : ∀ d ∈ dictionaryTables, (v.store.showing now).table? d = w.store.table? d := by
      rw [same]
      exact others
    have tables := kept tableTable (by decide)
    have columns := kept columnTable (by decide)
    have soundV : (v.store.showing now).WellFormed := (same ▸ sees.sound).showing now
    have again : run.answer (v.store.showing now) p = .ok (outcomes, v.store.showing now) := by
      rw [same]
      refine KeyedRun.answer_again tame went fun other => ?_
      unfold KeyedRun.picks
      rw [← targets_keys, List.forall_mem_map]
      exact timed (same ▸ other)
    -- the dictionary is as it was, so the second run is the same one over another store
    have beginsV : run.Begins (begun (showing v now)) :=
      ⟨takes.usable, soundV, (@known_begun (showing v now) w soundV sound tables columns
          takes.readings table).symm, header.beside, ⟨rest, keyed⟩, header.plain⟩
    have namedV : ((tableOf template).runOn (showing v now)).1 = .ok run.table := by
      have shownV : tableOfTab (v.store.showing now) template.tab = _ :=
        tableOfTab_congr (kept tabTable (by decide)) tables template.tab
      rw [@runOn_tableOf template (showing v now) table takes.usable (shownV.trans shown)]
      rfl
    obtain ⟨u', answered, after⟩ := beginsV.runOn_runLines namedV planned rfl
    have stored : (showing v now).store = v.store.showing now := rfl
    rw [stored, again] at answered after
    have ranV : (runLines (some template) context .update lines).runOn (showing v now) = _ := answered
    rw [ranV]
    exact ⟨rfl, (after _ rfl).1⟩
  · intro held
    exact ⟨rfl, sees.usable, consult_resume sound held sees.more⟩

/-- Lines of which the first two name one part in two ways. -/
def renamedParts : List String :=
  ["Amount/K;Name", "4;Axis", "04;Shaft", "9;Nut"]

def renamedPlan : Plan :=
  filePlan "Amount/K;Name" ["4;Axis", "04;Shaft", "9;Nut"]

def renamedReport : Report :=
  told "Part" renamedPlan
    [⟨2, .update, 1, "Amount=4"⟩, ⟨3, .update, 1, "Amount=4"⟩, ⟨4, .update, 1, "Amount=9"⟩]

def partsRenamed : Except Failure Report × Workspace :=
  (runLines (some partTemplate) (.standard (Calendar.Date.midnight ⟨2026, 1, 2⟩)) .update
    renamedParts).runOn partWorkspace

def nextDay : Calendar.Timestamp :=
  Calendar.Date.midnight ⟨2026, 1, 3⟩

/-- A day later the lines succeed once more on what they left, though the first line names the part that the second
one has renamed. -/
theorem update_reruns_parts :
    partsRenamed.1 = .ok renamedReport ∧ nextDay ≠ partsRenamed.2.store.now ∧
      ((runLines (some partTemplate) (.standard (Calendar.Date.midnight ⟨2026, 1, 2⟩)) .update
        renamedParts).runOn (showing partsRenamed.2 nextDay)).1 = .ok renamedReport ∧
      ((runLines (some partTemplate) (.standard (Calendar.Date.midnight ⟨2026, 1, 2⟩)) .update
        renamedParts).runOn (showing partsRenamed.2 nextDay)).2.store =
          partsRenamed.2.store.showing nextDay := by
  have sound : partWorkspace.store.WellFormed := Store.wellFormed_partStore
  have named : ((tableOf partTemplate).runOn partWorkspace).1 = .ok "Part" := by decide +kernel
  have planned : plan partTemplate.header renamedParts = .ok renamedPlan := by decide +kernel
  have answer : partsRenamed.1 = .ok renamedReport := by decide +kernel
  have ran : partsRenamed = (.ok renamedReport, partsRenamed.2) := by
    rw [← answer, Prod.mk.eta]
  have header : KeyedHeader "Part" renamedPlan.fields := by decide +kernel
  have common : SetsCommon partWorkspace.store "Part" renamedPlan.fields := by decide +kernel
  have empty : partWorkspace.memo.Held := nofun
  obtain ⟨again, takesUp, _⟩ := update_reruns sound named planned header common ran
  have timeless : ∀ f ∈ keys renamedPlan.fields, isAmong clockWords f.target = false := by
    decide +kernel
  have later : nextDay ≠ partsRenamed.2.store.now := by decide +kernel
  exact ⟨answer, later, again partsRenamed.2 (takesUp empty) nextDay fun _ => timeless⟩

/-- The day in the cell is not the present one. -/
def dayMissing : RowFault :=
  ⟨2, some 1, some "Current_Date/K", .recordNotFound (.text "Current_Date=2026-01-02")⟩

/-- The ids of rows can be set where they are no primary key, and unique columns where they are none, and
then lines that succeed can fail the second time: the first part is to take an id or a name once more that
the second part has by then. So can lines with the present day for a key, when the next day has come. -/
theorem unique_values_and_clock_count :
    (codedWorkspace.store.WellFormed ∧
      KeyedHeader "Part" (filePlan "No/K;rowid" ["1;3", "01;4", "2;3"]).fields ∧
      SparesPrimary codedWorkspace.store "Part" (filePlan "No/K;rowid" ["1;3", "01;4", "2;3"]).fields ∧
      ((updateParts ["No/K;rowid", "1;3", "01;4", "2;3"]).runOn codedWorkspace).1 =
        .ok (told "Part" (filePlan "No/K;rowid" ["1;3", "01;4", "2;3"])
          [⟨2, .update, 1, "No=1"⟩, ⟨3, .update, 1, "No=1"⟩, ⟨4, .update, 1, "No=2"⟩]) ∧
      ((updateParts ["No/K;rowid", "1;3", "01;4", "2;3"]).runOn
        ((updateParts ["No/K;rowid", "1;3", "01;4", "2;3"]).runOn codedWorkspace).2).1 =
          .error (.store (.takenKey "Part" "rowid"))) ∧
    (namedWorkspace.store.WellFormed ∧
      KeyedHeader "Part" (filePlan "No/K;Name" ["1;C", "01;D", "2;C"]).fields ∧
      SparesPrimary namedWorkspace.store "Part" (filePlan "No/K;Name" ["1;C", "01;D", "2;C"]).fields ∧
      ((updateParts ["No/K;Name", "1;C", "01;D", "2;C"]).runOn namedWorkspace).1 =
        .ok (told "Part" (filePlan "No/K;Name" ["1;C", "01;D", "2;C"])
          [⟨2, .update, 1, "No=1"⟩, ⟨3, .update, 1, "No=1"⟩, ⟨4, .update, 1, "No=2"⟩]) ∧
      ((updateParts ["No/K;Name", "1;C", "01;D", "2;C"]).runOn
        ((updateParts ["No/K;Name", "1;C", "01;D", "2;C"]).runOn namedWorkspace).2).1 =
          .error (.store (.takenKey "Part" "Name"))) ∧
    partWorkspace.store.WellFormed ∧
      KeyedHeader "Part" (filePlan "Current_Date/K;Name" ["2026-01-02;C"]).fields ∧
      SetsCommon partWorkspace.store "Part" (filePlan "Current_Date/K;Name" ["2026-01-02;C"]).fields ∧
      ((updateParts ["Current_Date/K;Name", "2026-01-02;C"]).runOn partWorkspace).1 =
        .ok (told "Part" (filePlan "Current_Date/K;Name" ["2026-01-02;C"])
          [⟨2, .update, 2, "Current_Date=2026-01-02"⟩]) ∧
      ((updateParts ["Current_Date/K;Name", "2026-01-02;C"]).runOn
        (showing ((updateParts ["Current_Date/K;Name", "2026-01-02;C"]).runOn partWorkspace).2
          nextDay)).1 = .error (.fault (.row dayMissing [dayMissing])) := by
  refine ⟨⟨wellFormed_codedStore, ?_, ?_, ?_, ?_⟩, ⟨wellFormed_namedStore, ?_, ?_, ?_, ?_⟩,
    Store.wellFormed_partStore, ?_, ?_, ?_, ?_⟩ <;>
    decide +kernel

end Run

end RowLoader
