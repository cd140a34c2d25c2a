import RowLoader.Proofs.Addressing
import RowLoader.Proofs.KeyedUpdates
import RowLoader.Proofs.PickedRows
import RowLoader.Proofs.Runs

/-!
What the check of keys protects. It compares the cells of a key field as texts, and records are picked by
the values that the cells are resolved to; so two lines come to one record where they spell one value in
two ways, or where the run itself changes what it picks records by.
-/

namespace RowLoader

open RowLoader.Header RowLoader.Source RowLoader.Dictionary RowLoader.Store RowLoader.Write
open RowLoader.Complete RowLoader.Resolve RowLoader.Text RowLoader.Identifier

namespace Resolve

theorem resolved_text {s : Store} {m : Recall} {table : String} {f : Field} {raw : String}
    {row : Int} {v : Value} (plain : f.lookup = none)
    (text : kindOf (ask s m table f.target).1 = .text)
    (h : resolved s m table f (some raw) row = .ok v) (given : v ≠ .null) : v = .text raw := by
  unfold resolved at h
  split at h
  · cases h
    exact absurd rfl given
  · unfold valueFor cast at h
    rw [plain, text] at h
    simp only [Kind.isNumeric, Bool.false_and, Bool.false_eq_true, if_false, Option.isSome_none,
      Option.getD_some] at h
    split at h
    · cases h
    · exact (Except.ok.inj h).symm
    · cases h

end Resolve

namespace Write

/-- The names that a row with one key can set: the other targets, and the time and the user of a change. -/
def namesBeside (fields : List Field) (key : Field) : List String :=
  (fields.map Field.target).filter (· ≠ key.target) ++ stampNames

theorem keysLast_iff_pairwise (fields : List Field) :
    KeysLast fields ↔ fields.Pairwise fun f g => f.isKey = true → g.target ≠ f.target := by
  constructor
  · intro keysLast
    induction fields with
    | nil => exact .nil
    | cons f rest ih =>
        refine List.pairwise_cons.mpr ⟨fun g member key => keysLast [] f rest rfl key g member, ?_⟩
        exact ih fun before g after split => keysLast (f :: before) g after (congrArg (f :: ·) split)
  · rintro apart before f after rfl key g member
    have later := (List.pairwise_append.mp apart).2.1
    exact List.rel_of_pairwise_cons later member key

instance (fields : List Field) : Decidable (KeysLast fields) :=
  decidable_of_iff _ (keysLast_iff_pairwise fields).symm

theorem mem_namesBeside {fields : List Field} {key : Field} {values : List Value}
    (aligned : values.length = fields.length) {context : Context} {listed : String → Bool} {n : String}
    (h : n ∈ (stamped context listed
      (withoutKeys [key] (enterValues [] (fields.zip values)))).names) :
    n ∈ namesBeside fields key := by
  rw [names_stamped, names_withoutKeys, names_enterValues aligned] at h
  refine List.mem_append.mpr ?_
  rcases Run.mem_foldl_names (fun _ _ _ => Run.mem_addName) h with own | stamp
  · obtain ⟨target, other⟩ := List.mem_filter.mp own
    exact .inl (List.mem_filter.mpr ⟨Run.mem_targetNames target, by simpa using other⟩)
  · exact .inr (List.mem_of_mem_filter stamp)

theorem affected_of_conclude {fields : List Field} {row : Int} {table : String} {sets : Columns}
    {conditions : List (String × Value)} {affected : Nat} {outcome : Outcome}
    (h : conclude fields row (.update table sets conditions) affected = .ok outcome) :
    outcome.affected = affected := by
  unfold conclude at h
  dsimp only at h
  split at h
  · cases h
    rfl
  · split at h <;> cases h
    rfl

end Write

namespace Run

theorem keyConditions_single {fields : List Field} {key : Field} (keyed : keys fields = [key])
    (keysLast : KeysLast fields) {values : List Value} (aligned : values.length = fields.length) :
    ∃ value, (key, value) ∈ fields.zip values ∧
      keyConditions [key] (enterValues [] (fields.zip values)) = [(key.target, value)] := by
  have paired := keys_zip aligned
  rw [keyed] at paired
  obtain ⟨⟨f, value⟩, alone, same⟩ := List.map_eq_singleton_iff.mp paired.symm
  obtain rfl : key = f := same.symm
  have member : (key, value) ∈ (fields.zip values).filter (·.1.isKey) := by
    rw [alone]
    exact List.mem_singleton_self _
  refine ⟨value, (List.mem_filter.mp member).1, ?_⟩
  rw [← keyed, keyConditions_enterValues aligned,
    lastConditions_eq_own.mpr (lastValue?_of_keysLast keysLast aligned), ownConditions, alone]
  rfl

variable {table : String} {template : Template} {context : Context} {fields : List Field} {key : Field}

/-- A record of a header with one key is resolved to a value for its key cell, and sets something by one
statement for the rows of this value or nothing at all. -/
theorem prepareRecord_keyed_ok {record : Record} {w w' : Workspace} {prepared : Option Statement}
    (usable : w.breakdown = none) (sound : w.store.WellFormed) (keyed : keys fields = [key])
    (keysLast : KeysLast fields)
    (h : (prepareRecord table template context .update fields record).runOn w = (.ok prepared, w')) :
    Asked w w' ∧ ∃ raw value, record.cell key = .ok raw ∧
      resolved w.store w.memo table key raw record.row = .ok value ∧ value ≠ .null ∧
      (prepared = none ∨ ∃ sets : Columns, (∀ n ∈ sets.names, n ∈ namesBeside fields key) ∧
        prepared = some (.update table sets [(key.target, value)])) := by
  obtain ⟨columns, mid, resolvedRow, h⟩ := Work.bind_ok h
  obtain ⟨values, each, rfl, aligned, asked⟩ := resolveRow_ok usable resolvedRow
  obtain ⟨_, found⟩ := resolveEach_ok usable sound each
  obtain ⟨value, paired, conditioned⟩ := keyConditions_single keyed keysLast aligned
  obtain ⟨raw, cell, reached⟩ := (List.forall₂_iff_zip.mp found).2 paired
  obtain ⟨_, ran, later⟩ := runOn_prepareKeyed (asked.breakdown.trans usable) table context key
    [key] (enterValues [] (fields.zip values)) record.row
  unfold prepareUpdate at h
  rw [keyed] at h
  dsimp only at h
  rw [ran] at h
  cases stated : keyedStatement (lists mid table) table context key [key]
      (enterValues [] (fields.zip values)) record.row with
  | error e =>
      rw [stated] at h
      cases h
  | ok statement =>
      rw [stated] at h
      cases h
      obtain ⟨given, choice⟩ := keyedStatement_cases stated
      rw [conditioned] at given choice
      refine ⟨asked.trans later, raw, value, cell, reached, given _ (List.mem_singleton_self _), ?_⟩
      exact choice.imp_right fun made => ⟨_, fun n set => mem_namesBeside aligned set, made.2⟩

theorem writeRecord_keyed_ok {record : Record} {w w' : Workspace} {outcome : Outcome}
    (usable : w.breakdown = none) (sound : w.store.WellFormed) (keyed : keys fields = [key])
    (keysLast : KeysLast fields)
    (h : (writeRecord table template context .update fields record).runOn w = (.ok outcome, w')) :
    w'.breakdown = none ∧ ∃ raw value, record.cell key = .ok raw ∧
      resolved w.store w.memo table key raw record.row = .ok value ∧ value ≠ .null ∧
      (outcome = nothingToUpdate record.row ∧ w'.store = w.store ∨
        ∃ (sets : Columns) (affected : Nat), (∀ n ∈ sets.names, n ∈ namesBeside fields key) ∧
          Store.execute w.store (.update table sets [(key.target, value)]) =
            .ok (w'.store, affected) ∧ outcome.affected = affected) := by
  rw [writeRecord_eq] at h
  obtain ⟨prepared, v, made, h⟩ := Work.bind_ok h
  obtain ⟨asked, raw, value, cell, reached, given, choice⟩ :=
    prepareRecord_keyed_ok usable sound keyed keysLast made
  rcases choice with rfl | ⟨sets, named, rfl⟩
  · obtain ⟨rfl, rfl⟩ := Work.pure_ok h
    exact ⟨asked.breakdown.trans usable, raw, value, cell, reached, given, .inl ⟨rfl, asked.store⟩⟩
  · obtain ⟨affected, u, executed, h⟩ := Work.bind_ok h
    obtain ⟨intact, s, done, rfl⟩ := Work.execute_ok executed
    obtain ⟨concluded, rfl⟩ := Work.ofFault_ok h
    rw [asked.store] at done
    exact ⟨intact, raw, value, cell, reached, given,
      .inr ⟨sets, affected, named, done, affected_of_conclude concluded⟩⟩

/-- What a record comes to by its key: the key cell, the kind of the key's column, the value of the cell,
and the rows that the value picks. -/
structure Turn where
  cell : String
  kind : Kind
  value : Value
  met : List Row

namespace Turn

structure In (turn : Turn) (w : Workspace) (table : String) (key : Field) (record : Record) :
    Prop where
  cell : record.cell key = .ok (some turn.cell)
  kind : kindOf (ask w.store w.memo table key.target).1 = turn.kind
  value : resolved w.store w.memo table key (some turn.cell) record.row = .ok turn.value
  given : turn.value ≠ .null
  met : rowsMet w.store table key.target turn.value = turn.met

/-- A record has nothing to set, or changes no rows of its table but those that it has met and tells how
many they are. -/
def Changes (turn : Turn) (table : String) (s s' : Store) (outcome : Outcome) : Prop :=
  outcome = nothingToUpdate outcome.row ∧ s' = s ∨
    outcome.affected = turn.met.length ∧
      ∀ r ∈ rowsOf s (bare table), r ∉ turn.met → r ∈ rowsOf s' (bare table)

/-- The key cell is written as the key's column keeps its value. -/
def Exact (turn : Turn) (t : Table) (name : String) : Prop :=
  WrittenAs (comparedAs t name turn.value) turn.cell

/-- The keys of two turns differ: their cells always do, the values of texts do, and values that are
written as they are kept are not equal. -/
structure KeysApart (t : Table) (name : String) (a b : Turn) : Prop where
  cells : a.cell ≠ b.cell
  texts : a.kind = .text → b.kind = .text → a.value ≠ b.value
  kept : a.Exact t name → b.Exact t name →
    (comparedAs t name a.value).same (comparedAs t name b.value) = false

theorem In.value_of_text {turn : Turn} {w : Workspace} {record : Record}
    (here : turn.In w table key record) (plain : key.lookup = none) (text : turn.kind = .text) :
    turn.value = .text turn.cell :=
  resolved_text plain (here.kind.trans text) here.value here.given

theorem In.exact_of_text {turn : Turn} {w : Workspace} {record : Record} {t : Table}
    (here : turn.In w table key record) (plain : key.lookup = none) (text : turn.kind = .text)
    (kept : ∀ slot, t.slot? (bare key.target) = some slot → t.affinity slot = .text) :
    turn.Exact t key.target := by
  unfold Exact comparedAs
  rw [here.value_of_text plain text]
  cases leads : t.slot? (bare key.target) with
  | none => exact rfl
  | some slot =>
      dsimp only
      rw [kept slot leads]
      exact rfl

end Turn

/-- Records are written one after the other, and each of them comes to its turn. -/
inductive Turns (table : String) (template : Template) (context : Context) (fields : List Field)
    (key : Field) : Workspace → List Record → List Turn → Workspace → Prop where
  | nil (w : Workspace) : Turns table template context fields key w [] [] w
  | cons {w v u : Workspace} {record : Record} {rest : List Record} {turn : Turn} {turns : List Turn}
      {outcome : Outcome} (here : turn.In w table key record)
      (written : (writeRecord table template context .update fields record).runOn w = (.ok outcome, v))
      (changes : turn.Changes table w.store v.store outcome)
      (later : Turns table template context fields key v rest turns u) :
      Turns table template context fields key w (record :: rest) (turn :: turns) u

theorem turn_of_writeRecord {record : Record} {w w' : Workspace} {outcome : Outcome} {raw : String}
    (usable : w.breakdown = none) (sound : w.store.WellFormed) (keyed : keys fields = [key])
    (keysLast : KeysLast fields) (cell : record.cell key = .ok (some raw))
    (h : (writeRecord table template context .update fields record).runOn w = (.ok outcome, w')) :
    w'.breakdown = none ∧ w'.store.WellFormed ∧ ∃ turn : Turn, turn.In w table key record ∧
      turn.Changes table w.store w'.store outcome := by
  obtain ⟨intact, _, value, there, reached, given, choice⟩ :=
    writeRecord_keyed_ok usable sound keyed keysLast h
  cases cell.symm.trans there
  refine ⟨intact, ?_, ⟨raw, kindOf (ask w.store w.memo table key.target).1, value,
    rowsMet w.store table key.target value⟩, ⟨cell, rfl, reached, given, rfl⟩, ?_⟩
  · rcases choice with ⟨_, same⟩ | ⟨_, _, _, executed, _⟩
    · rw [same]
      exact sound
    · exact execute_wellFormed sound executed
  · rcases choice with ⟨rfl, same⟩ | ⟨sets, affected, _, executed, told⟩
    · exact .inl ⟨rfl, same⟩
    · obtain ⟨rfl, others⟩ := execute_update_rowsMet sound executed
      exact .inr ⟨told, others⟩

theorem turns_of_writeEach {records : List Record} {w w' : Workspace} {outcomes : List Outcome}
    (usable : w.breakdown = none) (sound : w.store.WellFormed) (keyed : keys fields = [key])
    (keysLast : KeysLast fields)
    (cells : ∀ record ∈ records, ∃ raw, record.cell key = .ok (some raw))
    (h : (writeEach table template context .update fields records).runOn w = (.ok outcomes, w')) :
    ∃ turns, Turns table template context fields key w records turns w' := by
  induction records generalizing w outcomes with
  | nil =>
      obtain ⟨_, rfl⟩ := Work.pure_ok h
      exact ⟨[], .nil _⟩
  | cons record rest ih =>
      obtain ⟨outcome, v, written, h⟩ := Work.bind_ok h
      obtain ⟨others, u, later, h⟩ := Work.bind_ok h
      obtain ⟨_, rfl⟩ := Work.pure_ok h
      obtain ⟨raw, cell⟩ := cells record List.mem_cons_self
      obtain ⟨intact, whole, turn, here, changes⟩ :=
        turn_of_writeRecord usable sound keyed keysLast cell written
      obtain ⟨turns, after⟩ :=
        ih intact whole (fun r member => cells r (List.mem_cons_of_mem _ member)) later
      exact ⟨turn :: turns, .cons here written changes after⟩

namespace Turns

variable {w w' : Workspace} {records : List Record} {turns : List Turn}

theorem cells_eq (h : Turns table template context fields key w records turns w') :
    records.map (·.cell key) = turns.map fun turn => .ok (some turn.cell) := by
  induction h with
  | nil w => rfl
  | cons here written changes later ih => rw [List.map_cons, List.map_cons, here.cell, ih]

theorem exists_in (h : Turns table template context fields key w records turns w') :
    ∀ turn ∈ turns, ∃ u record, turn.In u table key record := by
  induction h with
  | nil w => exact fun turn member => absurd member List.not_mem_nil
  | @cons w v u record rest turn turns outcome here written changes later ih =>
      intro other member
      rcases List.mem_cons.mp member with rfl | member
      · exact ⟨w, record, here⟩
      · exact ih other member

/-- Where a run leaves its key and the ids of its table alone, every row that it meets is one that the
table had before, and that held an equal cell under the key. -/
theorem met_held (h : Turns table template context fields key w records turns w')
    (usable : w.breakdown = none) (sound : w.store.WellFormed) (keyed : keys fields = [key])
    (keysLast : KeysLast fields) {t : Table}
    (kept : ∀ u, w.store.table? (bare table) = some u → Retains key.target t u)
    (free : LeavesAlone t key.target (namesBeside fields key)) :
    ∀ turn ∈ turns, ∀ r ∈ turn.met, ∃ q ∈ t.rows, q.id = r.id ∧
      picks t w.store.now key.target turn.value q = true := by
  -- the rows that a record finds are those of the first table, as far as ids and the key go
  induction h with
  | nil w => exact fun turn member => absurd member List.not_mem_nil
  | @cons w v last record rest turn turns outcome here written changes later ih =>
      obtain ⟨intact, whole, _⟩ := turn_of_writeRecord usable sound keyed keysLast here.cell written
      obtain ⟨_, _, _, _, _, _, choice⟩ := writeRecord_keyed_ok usable sound keyed keysLast written
      have still : ∀ u, v.store.table? (bare table) = some u → Retains key.target t u := by
        intro u' there
        rcases choice with ⟨_, same⟩ | ⟨sets, affected, named, executed, _⟩
        · exact kept u' (same ▸ there)
        · obtain ⟨u, after, found, left, retained⟩ := execute_update_retains executed
          cases left.symm.trans there
          have before := kept u found
          exact before.trans (retained ((free.congr before.columns).mono named))
      intro other member
      rcases List.mem_cons.mp member with rfl | member
      · intro r picked
        rw [← here.met] at picked
        obtain ⟨u, found, inside, equal⟩ := picks_of_mem_rowsMet picked
        have before := kept u found
        obtain ⟨q, first, same, held⟩ := before.rows r inside
        rw [← picks_congr before.columns _ _ _ held] at equal
        exact ⟨q, first, same, equal⟩
      · have clock : v.store.now = w.store.now := by
          rcases choice with ⟨_, same⟩ | ⟨_, _, _, executed, _⟩
          · rw [same]
          · exact execute_now executed
        rw [← clock]
        exact ih intact whole still other member

theorem keysApart (h : Turns table template context fields key w records turns w')
    (plain : key.lookup = none) (differ : turns.Pairwise fun a b => a.cell ≠ b.cell) (t : Table) :
    turns.Pairwise (Turn.KeysApart t key.target) := by
  refine differ.imp_of_mem ?_
  intro a b first second cells
  refine ⟨cells, ?_, fun exact other => not_same_of_written exact other cells⟩
  intro text also equal
  obtain ⟨_, _, here⟩ := h.exists_in a first
  obtain ⟨_, _, there⟩ := h.exists_in b second
  rw [here.value_of_text plain text, there.value_of_text plain also] at equal
  exact cells (Value.text.inj equal)

/-- Turns with different key cells, written as they are kept, meet different rows, where the run leaves
its key and the ids alone. -/
theorem metApart (h : Turns table template context fields key w records turns w')
    (usable : w.breakdown = none) (sound : w.store.WellFormed) (keyed : keys fields = [key])
    (keysLast : KeysLast fields) (differ : turns.Pairwise fun a b => a.cell ≠ b.cell)
    (free : LeavesAlone (w.store.tableAt (bare table)) key.target (namesBeside fields key)) :
    turns.Pairwise fun a b => a.Exact (w.store.tableAt (bare table)) key.target →
      b.Exact (w.store.tableAt (bare table)) key.target →
      ∀ r ∈ a.met, ∀ q ∈ b.met, r.id ≠ q.id := by
  have kept : ∀ t, w.store.table? (bare table) = some t →
      Retains key.target (w.store.tableAt (bare table)) t :=
    fun t found => tableAt_of_some found ▸ .refl key.target _
  have held := h.met_held usable sound keyed keysLast kept free
  refine differ.imp_of_mem ?_
  intro a b first second cells exact other r picked q also met
  obtain ⟨r', before, id, equal⟩ := held a first r picked
  obtain ⟨q', there, same, alike⟩ := held b second q also
  -- rows of the first table with one id are one row, and that holds one cell under the key
  have one : r' = q' := (wellFormed_tableAt sound _).eq_of_id before there (by rw [id, same, met])
  rw [← one] at alike
  exact cells (eq_of_picks_written equal alike exact other)

end Turns

theorem Plan.cells_records {header : Option String} {lines : List String} {p : Plan}
    (planned : plan header lines = .ok p) (clean : p.problems = []) (member : key ∈ p.fields) :
    p.records.map (·.cell key) = p.data.map fun line => .ok (some (lineCell p.separator line key)) := by
  have numbered := numbered_of_plan planned
  have complete := isComplete_of_problemsOf_nil clean
  rw [p.records_eq clean]
  refine List.ext_getElem (by simp) ?_
  intro i within bound
  simp only [List.getElem_map, List.getElem_mapIdx]
  exact cell_recordOf numbered member (complete _ (List.getElem_mem _)) _

theorem Turns.map_cell {header : Option String} {lines : List String} {p : Plan}
    (planned : plan header lines = .ok p) (clean : p.problems = []) (member : key ∈ p.fields)
    {w w' : Workspace} {turns : List Turn}
    (h : Turns table template context fields key w p.records turns w') :
    turns.map Turn.cell = p.data.map (lineCell p.separator · key) := by
  have alike := h.cells_eq.symm.trans (Plan.cells_records planned clean member)
  have injective : Function.Injective fun cell : String =>
      (.ok (some cell) : Except Failure (Option String)) :=
    fun a b agree => Option.some.inj (Except.ok.inj agree)
  refine List.map_injective_iff.mpr injective ?_
  rw [List.map_map, List.map_map]
  exact alike

/-- What the check of one key assures of an update that succeeds: no two lines share a key cell. Where no
field after the key has its target, every line comes to a value by its key cell, and two lines come to
one value neither in a column of texts nor where both cells are written as the column keeps the value.
Where besides nothing that is set leads to the key or to the id, and the key is not the time or the user
of a change, no two lines whose cells are so written meet one record. -/
theorem key_check_compares_cells {template : Template} {context : Context} {lines : List String}
    {w w' : Workspace} {table : String} {p : Plan} {key : Field} {report : Report}
    (sound : w.store.WellFormed) (named : ((tableOf template).runOn w).1 = .ok table)
    (planned : plan template.header lines = .ok p) (keyed : keys p.fields = [key])
    (plain : key.lookup = none)
    (ran : (runLines (some template) context .update lines).runOn w = (.ok report, w')) :
    (p.data.Pairwise fun a b => lineCell p.separator a key ≠ lineCell p.separator b key) ∧
      (KeysLast p.fields → ∃ turns u,
        Turns table template context p.fields key (begun w) p.records turns u ∧
        u.store = w'.store ∧ turns.map Turn.cell = p.data.map (lineCell p.separator · key) ∧
        turns.Pairwise (Turn.KeysApart (w.store.tableAt (bare table)) key.target) ∧
        (∀ turn ∈ turns, turn.kind = .text →
          (∀ slot, (w.store.tableAt (bare table)).slot? (bare key.target) = some slot →
            (w.store.tableAt (bare table)).affinity slot = .text) →
          turn.Exact (w.store.tableAt (bare table)) key.target) ∧
        (LeavesAlone (w.store.tableAt (bare table)) key.target (namesBeside p.fields key) →
          turns.Pairwise fun a b =>
            a.Exact (w.store.tableAt (bare table)) key.target →
            b.Exact (w.store.tableAt (bare table)) key.target →
            ∀ r ∈ a.met, ∀ q ∈ b.met, r.id ≠ q.id)) := by
  obtain ⟨_, clean, outcomes, u, written, _, rfl⟩ := (runLines_ok_iff named planned).mp ran
  obtain ⟨usable, _⟩ := tableOf_ok named
  have member : key ∈ p.fields := by
    have inside : key ∈ keys p.fields := keyed ▸ List.mem_singleton_self key
    exact List.mem_of_mem_filter inside
  have apart : p.data.Pairwise fun a b => lineCell p.separator a key ≠ lineCell p.separator b key :=
    (problemsOf_eq_nil_iff.mp clean).2.imp fun differ => differ key (keyed ▸ List.mem_singleton_self key)
  refine ⟨apart, ?_⟩
  intro keysLast
  have filled : ∀ record ∈ p.records, ∃ raw, record.cell key = .ok (some raw) := by
    intro record inside
    have listed := List.mem_map_of_mem (f := (·.cell key)) inside
    rw [Plan.cells_records planned clean member] at listed
    obtain ⟨line, _, same⟩ := List.mem_map.mp listed
    exact ⟨_, same.symm⟩
  obtain ⟨turns, run⟩ :=
    turns_of_writeEach (w := begun w) usable sound keyed keysLast filled written
  have cells := run.map_cell planned clean member
  have differ : turns.Pairwise fun a b => a.cell ≠ b.cell := by
    rw [← List.pairwise_map (f := Turn.cell) (R := (· ≠ ·)), cells, List.pairwise_map]
    exact apart
  refine ⟨turns, u, run, rfl, cells, run.keysApart plain differ _, ?_, ?_⟩
  · intro turn inside text kept
    obtain ⟨_, _, here⟩ := run.exists_in turn inside
    exact here.exact_of_text plain text kept
  · intro free
    exact run.metApart usable sound keyed keysLast differ free

-- a name in other letters sets the key itself, and then the second line meets what the first has updated,
-- though its cells are the texts that the key holds
example : KeysLast (filePlan "Value/K;value" ["A;B", "B;C"]).fields ∧
    ((updateParts ["Value/K;value", "A;B", "B;C"]).runOn partWorkspace).1 =
      .ok (told "Part" (filePlan "Value/K;value" ["A;B", "B;C"])
        [⟨2, .update, 1, "Value=A"⟩, ⟨3, .update, 2, "Value=B"⟩]) := by
  decide +kernel

def pricedPlan : Plan :=
  filePlan "Value/K;Amount" ["A;7", "B;1"]

def partsPriced : Except Failure Report × Workspace :=
  (runLines (some partTemplate) (.standard (Calendar.Date.midnight ⟨2026, 1, 2⟩)) .update
    ["Value/K;Amount", "A;7", "B;1"]).runOn partWorkspace

/-- The two lines meet different parts. -/
theorem key_check_compares_parts :
    ∃ turns u, Turns "Part" partTemplate (.standard (Calendar.Date.midnight ⟨2026, 1, 2⟩))
        pricedPlan.fields (Field.read (some "Value/K") 1) (begun partWorkspace) pricedPlan.records
        turns u ∧
      u.store = partsPriced.2.store ∧ turns.map Turn.cell = ["A", "B"] ∧
      turns.Pairwise fun a b => a.Exact Store.parts "Value" → b.Exact Store.parts "Value" →
        ∀ r ∈ a.met, ∀ q ∈ b.met, r.id ≠ q.id := by
  have sound : partWorkspace.store.WellFormed := Store.wellFormed_partStore
  have named : ((tableOf partTemplate).runOn partWorkspace).1 = .ok "Part" := by decide +kernel
  have planned : plan partTemplate.header ["Value/K;Amount", "A;7", "B;1"] = .ok pricedPlan := by
    decide +kernel
  have keyed : keys pricedPlan.fields = [Field.read (some "Value/K") 1] := by decide +kernel
  have answer : partsPriced.1 = .ok (told "Part" pricedPlan
      [⟨2, .update, 1, "Value=A"⟩, ⟨3, .update, 1, "Value=B"⟩]) := by decide +kernel
  have target : partWorkspace.store.tableAt (bare "Part") = Store.parts := by decide +kernel
  have called : (Field.read (some "Value/K") 1).target = "Value" := by decide +kernel
  have plain : (Field.read (some "Value/K") 1).lookup = none := by decide +kernel
  have keysLast : KeysLast pricedPlan.fields := by decide +kernel
  have free : LeavesAlone Store.parts "Value"
      (namesBeside pricedPlan.fields (Field.read (some "Value/K") 1)) := by decide +kernel
  have read : pricedPlan.data.map
      (lineCell pricedPlan.separator · (Field.read (some "Value/K") 1)) = ["A", "B"] := by
    decide +kernel
  have ran : partsPriced = (.ok (told "Part" pricedPlan
      [⟨2, .update, 1, "Value=A"⟩, ⟨3, .update, 1, "Value=B"⟩]), partsPriced.2) := by
    rw [← answer, Prod.mk.eta]
  have checked := key_check_compares_cells sound named planned keyed plain ran
  rw [target, called] at checked
  obtain ⟨turns, u, run, left, cells, _, _, apart⟩ := checked.2 keysLast
  exact ⟨turns, u, run, left, cells.trans read, apart free⟩

/-- Lines with two spellings of one key. -/
def twiceNamedPlan : Plan :=
  filePlan "Amount/K;Name" ["4;Axis", "04;Shaft"]

def partsTwiceNamed : Except Failure Report × Workspace :=
  (runLines (some partTemplate) (.standard (Calendar.Date.midnight ⟨2026, 1, 2⟩)) .update
    ["Amount/K;Name", "4;Axis", "04;Shaft"]).runOn partWorkspace

/-- Two lines with different key cells come to one value, and both update the part that has it. -/
theorem two_spellings_meet_one_part :
    ∃ key, keys twiceNamedPlan.fields = [key] ∧ (∀ f ∈ twiceNamedPlan.fields, f.lookup = none) ∧
      partsTwiceNamed.1 = .ok (told "Part" twiceNamedPlan
        [⟨2, .update, 1, "Amount=4"⟩, ⟨3, .update, 1, "Amount=4"⟩]) ∧
      resolved partWorkspace.store partWorkspace.memo "Part" key (some "4") 2 = .ok (.whole 4) ∧
      resolved partWorkspace.store partWorkspace.memo "Part" key (some "04") 3 = .ok (.whole 4) ∧
      (rowsMet partWorkspace.store "Part" "Amount" (.whole 4)).map
        (fun r => (r.id, r.read (.cell 2))) = [(1, .text "Axle")] ∧
      (rowsMet partsTwiceNamed.2.store "Part" "Amount" (.whole 4)).map
        (fun r => (r.id, r.read (.cell 2))) = [(1, .text "Shaft")] := by
  refine ⟨Field.read (some "Amount/K") 1, ?_, ?_, ?_, ?_, ?_, ?_, ?_⟩ <;> decide +kernel

end Run

end RowLoader
