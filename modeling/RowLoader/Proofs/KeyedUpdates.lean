import Mathlib.Data.List.Pairwise
import RowLoader.Proofs.KeyedRecords
import RowLoader.Proofs.Runs

/-!
Runs that update by key fields. Where the targets of a header are different names and no target that is
set tells rows apart, every row of a run is settled by the store as it was before the run.
-/

namespace RowLoader.Run

open RowLoader.Header RowLoader.Source RowLoader.Dictionary RowLoader.Store RowLoader.Write
open RowLoader.Resolve RowLoader.Complete RowLoader.Text RowLoader.Identifier

/-- A header of a run that updates by key fields: it has a key and no look-up, no two of its targets are
one name, the time and the user of a change are no keys, and the table is none of the dictionary. -/
structure KeyedHeader (table : String) (fields : List Field) : Prop where
  keyed : keys fields ≠ []
  plain : ∀ f ∈ fields, f.lookup = none
  distinct : fields.Pairwise fun f g => sameName f.target g.target = false
  unstamped : ∀ f ∈ keys fields, ∀ n ∈ stampNames, sameName f.target n = false
  beside : Beside (bare table)

theorem keyedHeader_iff (table : String) (fields : List Field) : KeyedHeader table fields ↔
    keys fields ≠ [] ∧ (∀ f ∈ fields, f.lookup = none) ∧
      (fields.Pairwise fun f g => sameName f.target g.target = false) ∧
      (∀ f ∈ keys fields, ∀ n ∈ stampNames, sameName f.target n = false) ∧
      ∀ d ∈ dictionaryTables, sameName (bare table) d = false :=
  ⟨fun h => ⟨h.keyed, h.plain, h.distinct, h.unstamped, h.beside⟩,
    fun ⟨keyed, plain, distinct, unstamped, beside⟩ =>
      ⟨keyed, plain, distinct, unstamped, beside⟩⟩

instance (table : String) (fields : List Field) : Decidable (KeyedHeader table fields) :=
  decidable_of_iff _ (keyedHeader_iff table fields).symm

def setSlots (s : Store) (table : String) (fields : List Field) (t : Table) : List Slot :=
  slotsOf t (setNames (headingOf fields) (isListed s table))

/-- What a run sets in its table tells no rows apart: it is neither the id under any of its names nor a
unique column, be that the primary key or not. -/
def SetsCommon (s : Store) (table : String) (fields : List Field) : Prop :=
  ∀ t ∈ s.table? (bare table), ∀ slot ∈ setSlots s table fields t, t.identifies slot = false

instance (s : Store) (table : String) (fields : List Field) :
    Decidable (SetsCommon s table fields) :=
  inferInstanceAs (Decidable (∀ t ∈ s.table? (bare table),
    ∀ slot ∈ setSlots s table fields t, t.identifies slot = false))

theorem mem_foldl_names {add : List String → String → List String}
    (adds : ∀ names m n, n ∈ add names m → n ∈ names ∨ n = m) {more names : List String} {n : String}
    (h : n ∈ more.foldl add names) : n ∈ names ∨ n ∈ more := by
  induction more generalizing names with
  | nil => exact .inl h
  | cons m rest ih =>
      rcases ih h with before | later
      · rcases adds names m n before with inside | rfl
        · exact .inl inside
        · exact .inr List.mem_cons_self
      · exact .inr (List.mem_cons_of_mem m later)

theorem mem_foldl_of_mem {add : List String → String → List String}
    (holds : ∀ names m n, n ∈ names ∨ n = m → n ∈ add names m) {more names : List String}
    {n : String} (h : n ∈ names ∨ n ∈ more) : n ∈ more.foldl add names := by
  induction more generalizing names with
  | nil => exact h.resolve_right List.not_mem_nil
  | cons m rest ih =>
      refine ih ?_
      rcases h with before | new
      · exact .inl (holds names m n (.inl before))
      · rcases List.mem_cons.mp new with rfl | later
        · exact .inl (holds names n n (.inr rfl))
        · exact .inr later

theorem mem_targetNames {targets : List String} {n : String} (h : n ∈ targetNames targets) :
    n ∈ targets := by
  refine (mem_foldl_names ?_ h).resolve_left List.not_mem_nil
  intro names m n member
  split at member
  · exact .inl member
  · simpa using member

theorem mem_targetNames_of_mem {targets : List String} {n : String} (h : n ∈ targets) :
    n ∈ targetNames targets := by
  refine mem_foldl_of_mem ?_ (.inr h)
  intro names m n member
  split
  · rename_i there
    rcases member with before | rfl
    · exact before
    · exact there
  · simpa using member

theorem mem_addName {names : List String} {m n : String} (h : n ∈ addName names m) :
    n ∈ names ∨ n = m := by
  unfold addName at h
  split at h
  · exact .inl h
  · simpa using h

theorem mem_setNames {fields : List Field} {listed : String → Bool} {n : String}
    (h : n ∈ setNames (headingOf fields) listed) :
    (∃ f ∈ fields, f.target = n ∧ n ∉ (headingOf fields).keys) ∨ n ∈ stampNames := by
  unfold setNames at h
  dsimp only at h
  split at h
  · cases h
  · rcases mem_foldl_names (fun _ _ _ => mem_addName) h with own | stamp
    · obtain ⟨target, other⟩ := List.mem_filter.mp own
      rw [targets_headingOf] at target
      obtain ⟨f, member, named⟩ := List.mem_map.mp (mem_targetNames target)
      exact .inl ⟨f, member, named, by simpa using other⟩
    · exact .inr (List.mem_of_mem_filter stamp)

theorem bare_stampNames : ∀ n ∈ stampNames, bare n = n := by decide +kernel

/-- No name that a header sets is one by which it picks rows. -/
theorem KeyedHeader.apart {table : String} {fields : List Field}
    (header : KeyedHeader table fields) {f : Field} (key : f ∈ keys fields)
    {listed : String → Bool} {n : String} (set : n ∈ setNames (headingOf fields) listed) :
    sameName f.target n = false := by
  rcases mem_setNames set with ⟨g, member, rfl, other⟩ | stamp
  · have differ : f ≠ g := by
      rintro rfl
      apply other
      rw [← targets_keys]
      exact List.mem_map_of_mem key
    have symmetric : Std.Symm fun f g : Field => sameName f.target g.target = false :=
      ⟨fun f g h => (sameName_comm _ _).trans h⟩
    exact header.distinct.forall (List.mem_of_mem_filter key) member differ
  · exact header.unstamped f key n stamp

/-- Targets that no statement misreads by a line feed at their end. -/
def Bare (fields : List Field) : Prop :=
  ∀ f ∈ fields, bare f.target = f.target

theorem KeyedHeader.tame {s : Store} {table : String} {fields : List Field}
    (header : KeyedHeader table fields) (common : SetsCommon s table fields) (trimmed : Bare fields)
    {t : Table} (found : s.table? (bare table) = some t) :
    Tame t (setNames (headingOf fields) (isListed s table)) (headingOf fields).keys := by
  refine ⟨common t found, ?_⟩
  intro k picked slot leads assigned
  obtain ⟨n, set, led⟩ := mem_slotsOf.mp assigned
  rw [← targets_keys] at picked
  obtain ⟨f, key, rfl⟩ := List.mem_map.mp picked
  have named : bare n = n := by
    rcases mem_setNames set with ⟨g, member, rfl, _⟩ | stamp
    · exact trimmed g member
    · exact bare_stampNames n stamp
  rw [trimmed f (List.mem_of_mem_filter key)] at leads
  rw [named] at led
  -- a key and a name that is set can lead to one slot only where they are one name, or both mean the id
  cases slot with
  | id => cases common t found .id assigned
  | cell i =>
      obtain ⟨c, here, called⟩ := slot?_cell leads
      obtain ⟨d, there, also⟩ := slot?_cell led
      cases here.symm.trans there
      have same : sameName f.target n = true := by
        rw [← sameName_left called]
        exact also
      rw [header.apart key set] at same
      cases same

/-- The plan for a file whose first line is its header. -/
def filePlan (head : String) (lines : List String) : Plan :=
  ⟨read ((cellsOf (separatorOf head) head).map some), 2, lines, separatorOf head⟩

theorem plan_of_file {stored : Option String} (unstored : Template.tokens stored = none)
    (head : String) (lines : List String) :
    plan stored (head :: lines) = .ok (filePlan head lines) := by
  unfold plan
  rw [unstored]
  rfl

def keyedRun (w : Workspace) (table : String) (context : Context) (fields : List Field)
    (first : Field) : KeyedRun :=
  ⟨known (begun w) table, table, context, fields, first⟩

def KeyedRun.answer (run : KeyedRun) (s : Store) (p : Plan) :
    Except Failure (List Outcome × Store) :=
  match p.problems with
  | [] => run.steps s p.records
  | first :: rest => .error (.fault (.row first (first :: rest)))

theorem KeyedRun.answer_ok {run : KeyedRun} {s : Store} {p : Plan} {r : List Outcome × Store} :
    run.answer s p = .ok r ↔ p.problems = [] ∧ run.steps s p.records = .ok r := by
  unfold KeyedRun.answer
  cases p.problems with
  | nil => simp
  | cons first rest => simp

theorem KeyedRun.answer_table? {run : KeyedRun} {s s' : Store} (tame : run.TameIn s) {p : Plan}
    {outcomes : List Outcome} (h : run.answer s p = .ok (outcomes, s')) {name : String}
    (other : sameName (bare run.table) name = false) : s'.table? name = s.table? name := by
  obtain ⟨_, stepped⟩ := KeyedRun.answer_ok.mp h
  obtain ⟨_, rfl⟩ := (KeyedRun.steps_iff tame).mp stepped
  exact table?_mapRows_of_ne s _ other

theorem KeyedRun.answer_showing {run : KeyedRun}
    (timeless : ∀ n ∈ run.picks, isAmong clockWords n = false) (s : Store)
    (now : Calendar.Timestamp) (p : Plan) : run.answer (s.showing now) p =
      (run.answer s p).map fun r => (r.1, r.2.showing now) := by
  unfold KeyedRun.answer
  cases p.problems with
  | nil => exact KeyedRun.steps_showing timeless s now p.records
  | cons first rest => rfl

/-- A run that succeeded answers the same on the store that it left, at any time unless it picks rows by a
word for the present moment. -/
theorem KeyedRun.answer_again {run : KeyedRun} {s s' : Store} (tame : run.TameIn s) {p : Plan}
    {outcomes : List Outcome} (h : run.answer s p = .ok (outcomes, s')) {now : Calendar.Timestamp}
    (timed : now ≠ s'.now → ∀ n ∈ run.picks, isAmong clockWords n = false) :
    run.answer (s'.showing now) p = .ok (outcomes, s'.showing now) := by
  obtain ⟨sound, stepped⟩ := KeyedRun.answer_ok.mp h
  have again : run.answer s' p = .ok (outcomes, s') :=
    KeyedRun.answer_ok.mpr ⟨sound, KeyedRun.steps_again tame stepped⟩
  by_cases still : now = s'.now
  · rw [still]
    exact again
  · rw [KeyedRun.answer_showing (timed still), again]
    rfl

def told (table : String) (p : Plan) (outcomes : List Outcome) : Report :=
  ({ Report.empty with table := some table, mode := .update, totalRows := p.records.length } :
    Report).addAll outcomes

theorem outcomes_addAll (report : Report) (outcomes : List Outcome) :
    (report.addAll outcomes).outcomes = report.outcomes ++ outcomes := by
  rw [Report.addAll_eq]

theorem outcomes_told (table : String) (p : Plan) (outcomes : List Outcome) :
    (told table p outcomes).outcomes = outcomes :=
  outcomes_addAll _ outcomes

theorem KeyedHeader.begins {w : Workspace} {table : String} {fields : List Field}
    (header : KeyedHeader table fields) (usable : w.breakdown = none)
    (sound : w.store.WellFormed) (context : Context) {first : Field} {rest : List Field}
    (keyed : keys fields = first :: rest) :
    (keyedRun w table context fields first).Begins (begun w) :=
  ⟨usable, sound, rfl, header.beside, ⟨rest, keyed⟩, header.plain⟩

theorem KeyedHeader.tameIn {w : Workspace} {table : String} {fields : List Field}
    (header : KeyedHeader table fields) (common : SetsCommon w.store table fields)
    (trimmed : Bare fields) (context : Context) (first : Field) :
    (keyedRun w table context fields first).TameIn w.store := by
  intro t found
  have listed : (keyedRun w table context fields first).knows.listed = isListed w.store table :=
    funext (lists_begun w table)
  unfold KeyedRun.sets KeyedRun.picks
  rw [listed]
  exact header.tame common trimmed found

/-- A run of lines answers what they do to the store, and leaves that store. -/
theorem KeyedRun.Begins.runOn_runLines {run : KeyedRun} {w : Workspace}
    (begins : run.Begins (begun w)) {template : Template} {lines : List String} {p : Plan}
    (named : ((tableOf template).runOn w).1 = .ok run.table)
    (planned : plan template.header lines = .ok p) (headed : p.fields = run.fields) :
    ∃ u, (runLines (some template) run.context .update lines).runOn w =
        ((run.answer w.store p).map fun r => told run.table p r.1,
          { u with memo := w.memo.resume u.memo }) ∧
      ∀ r, run.answer w.store p = .ok r → u.store = r.2 ∧ Sees (begun w) u := by
  have into := runOn_importInto run.table run.context .update planned (begun w)
  unfold KeyedRun.answer
  rw [runLines_some rfl, importLines_eq named, into]
  cases p.problems with
  | cons first rest => exact ⟨begun w, rfl, nofun⟩
  | nil =>
      obtain ⟨u, ran, after⟩ := begins.runOn_writeRecords (.refl begins.usable begins.sound) template
        { Report.empty with table := some run.table, mode := .update, totalRows := p.records.length }
        p.records
      dsimp only
      rw [headed, ran]
      exact ⟨u, rfl, after⟩

theorem KeyedRun.Begins.runLines_ok {run : KeyedRun} {w w' : Workspace}
    (begins : run.Begins (begun w)) {template : Template} {lines : List String} {p : Plan}
    (named : ((tableOf template).runOn w).1 = .ok run.table)
    (planned : plan template.header lines = .ok p) (headed : p.fields = run.fields) {report : Report}
    (ran : (runLines (some template) run.context .update lines).runOn w = (.ok report, w')) :
    ∃ outcomes u, run.answer w.store p = .ok (outcomes, u.store) ∧
      report = told run.table p outcomes ∧ w' = { u with memo := w.memo.resume u.memo } ∧
      Sees (begun w) u := by
  obtain ⟨u, answered, after⟩ := begins.runOn_runLines named planned headed
  rw [answered] at ran
  cases went : run.answer w.store p with
  | error e =>
      rw [went] at ran
      cases ran
  | ok r =>
      obtain ⟨outcomes, s'⟩ := r
      rw [went] at ran
      cases ran
      obtain ⟨rfl, sees⟩ := after _ went
      exact ⟨outcomes, u, rfl, rfl, rfl, sees⟩

/-- The slots of the primary key of a table: the id, if a column is declared to be it, or else a unique
column. -/
def isPrimary (t : Table) : Slot → Bool
  | .id => t.columns.any (·.duty = .key)
  | .cell i => !t.columns.any (·.duty = .key) && (t.columns[i]?).any (·.unique)

def SparesPrimary (s : Store) (table : String) (fields : List Field) : Prop :=
  ∀ t ∈ s.table? (bare table), ∀ slot ∈ setSlots s table fields t, isPrimary t slot = false

instance (s : Store) (table : String) (fields : List Field) :
    Decidable (SparesPrimary s table fields) :=
  inferInstanceAs (Decidable (∀ t ∈ s.table? (bare table),
    ∀ slot ∈ setSlots s table fields t, isPrimary t slot = false))

/-- Two parts with numbers and with codes, which are their primary key. -/
def codedParts : Table :=
  { name := "Part"
    columns :=
      [{ name := "Code", affinity := .text, duty := .free, unique := true },
        { name := "No", affinity := .number, duty := .free }]
    rows := [⟨1, [.text "A", .int 1]⟩, ⟨2, [.text "B", .int 2]⟩] }

/-- Two parts with numbers and with names that no two parts share, and with ids for their primary key. -/
def namedParts : Table :=
  { name := "Part"
    columns :=
      [{ name := "Part_ID", affinity := .number, duty := .key },
        { name := "No", affinity := .number, duty := .free },
        { name := "Name", affinity := .text, duty := .free, unique := true }]
    rows := [⟨1, [.null, .int 1, .text "A"]⟩, ⟨2, [.null, .int 2, .text "B"]⟩] }

def codedWorkspace : Workspace :=
  ⟨describing codedParts [("Code", 10), ("No", 11)] 3 1 none, .empty, fun _ => "", 0, false, none⟩

def namedWorkspace : Workspace :=
  ⟨describing namedParts [("Part_ID", 13), ("No", 11), ("Name", 10)] 3 1 none, .empty, fun _ => "", 0,
    false, none⟩

def updateParts (lines : List String) : Work Report :=
  runLines (some partTemplate) (.standard (Calendar.Date.midnight ⟨2026, 1, 2⟩)) .update lines

theorem wellFormed_codedStore : codedWorkspace.store.WellFormed :=
  wellFormed_describing (by decide +kernel) (by decide +kernel) _ 3 1 none

theorem wellFormed_namedStore : namedWorkspace.store.WellFormed :=
  wellFormed_describing (by decide +kernel) (by decide +kernel) _ 3 1 none

end RowLoader.Run
