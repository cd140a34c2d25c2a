import RowLoader.Proofs.Changes
import RowLoader.Proofs.Rendering

/-!
Keyed updates without look-ups. What a record makes of a store goes by its cells and by what the
dictionary says of the columns; so a run over such records is a run over stores alone, and each record
is settled by the store as it was before the run.
-/

namespace RowLoader

open RowLoader.Header RowLoader.Dictionary RowLoader.Store RowLoader.Complete RowLoader.Resolve
open RowLoader.Text RowLoader.Identifier

theorem Work.runOn_execute {w : Workspace} (usable : w.breakdown = none) (statement : Statement) :
    (Work.execute statement).runOn w =
      match Store.execute w.store statement with
      | .ok (s, affected) => (.ok affected, { w with store := s, isOpen := true })
      | .error e => (.error e, { w with isOpen := true }) := by
  unfold Work.execute
  rw [Work.runOn_bind_of_ok (Work.runOn_enter usable), Work.runOn_bind_of_ok (Work.runOn_get _)]
  cases Store.execute w.store statement <;> rfl

namespace Resolve

/-- What is known of the columns of a table: what the dictionary says of each, and which it lists. -/
structure Knowledge where
  info : String → Option ColumnInfo
  listed : String → Bool

def known (w : Workspace) (table : String) : Knowledge :=
  ⟨fun column => (ask w.store w.memo table column).1, lists w table⟩

/-- Workspaces in which every column is described by the same row, and every row says the same, know the
same. -/
theorem known_congr {u w : Workspace} (soundU : u.store.WellFormed) (sound : w.store.WellFormed)
    {table : String}
    (located : ∀ column, (locate u.store u.memo table column).1 =
      (locate w.store w.memo table column).1)
    (consulted : ∀ id, (consult u.store u.memo id).1 = (consult w.store w.memo id).1) :
    known u table = known w table := by
  have info : (fun column => (ask u.store u.memo table column).1) =
      fun column => (ask w.store w.memo table column).1 := by
    funext column
    rw [ask_fst soundU, ask_fst sound, located, funext consulted]
  have listed : lists u table = lists w table := by
    funext column
    unfold lists
    rw [located]
  unfold known
  rw [info, listed]

theorem known_of_asked {w w' : Workspace} (sound : w.store.WellFormed) (asked : Asked w w')
    (table : String) : known w' table = known w table := by
  refine known_congr (asked.store ▸ sound) sound (lists_of_asked asked table) ?_
  intro id
  rw [asked.store]
  exact consult_of_extends sound asked.more id

def plainValue (k : Knowledge) (table : String) (f : Field) (raw : Option String) (row : Int) :
    Except Failure Value :=
  let kind := kindOf (k.info f.target)
  let cell := raw.getD ""
  if isNull raw then .ok .null
  else if kind.isNumeric && isDigits cell then literal kind cell
  else cast (k.info f.target) table f cell row

def plainValues (k : Knowledge) (table : String) (record : Source.Record) :
    List Field → Except Failure (List Value)
  | [] => .ok []
  | f :: rest => do
    let raw ← record.cell f
    let v ← plainValue k table f raw record.row
    let others ← plainValues k table record rest
    return v :: others

theorem resolved_plain {f : Field} (plain : f.lookup = none) (w : Workspace) (table : String)
    (raw : Option String) (row : Int) :
    resolved w.store w.memo table f raw row = plainValue (known w table) table f raw row := by
  unfold resolved plainValue valueFor
  rw [plain]
  rfl

theorem runOn_resolveEach_plain {w : Workspace} (usable : w.breakdown = none)
    (sound : w.store.WellFormed) (table : String) (record : Source.Record) {fields : List Field}
    (plain : ∀ f ∈ fields, f.lookup = none) : ∃ w', (resolveEach table record fields).runOn w =
      (plainValues (known w table) table record fields, w') ∧ Asked w w' := by
  induction fields generalizing w with
  | nil => exact ⟨w, rfl, .refl w⟩
  | cons f rest ih =>
      unfold resolveEach plainValues
      cases record.cell f with
      | error e => exact ⟨w, Work.runOn_bind_of_error (Work.runOn_ofExcept _ w) _, .refl w⟩
      | ok raw =>
          rw [Work.runOn_bind_of_ok (Work.runOn_ofExcept (.ok raw) w), except_ok_bind]
          obtain ⟨mid, ran, asked⟩ := runOn_resolve usable table f raw record.row
          rw [resolved_plain (plain f List.mem_cons_self)] at ran
          cases value : plainValue (known w table) table f raw record.row with
          | error e =>
              rw [value] at ran
              exact ⟨mid, Work.runOn_bind_of_error ran _, asked⟩
          | ok v =>
              rw [value] at ran
              obtain ⟨last, each, later⟩ := ih (asked.breakdown.trans usable)
                (asked.store ▸ sound) fun g member => plain g (List.mem_cons_of_mem _ member)
              rw [known_of_asked sound asked] at each
              rw [Work.runOn_bind_of_ok ran, except_ok_bind]
              refine ⟨last, ?_, asked.trans later⟩
              cases others : plainValues (known w table) table record rest with
              | error e =>
                  rw [others] at each
                  exact Work.runOn_bind_of_error each _
              | ok values =>
                  rw [others] at each
                  exact Work.runOn_bind_of_ok each _

theorem length_plainValues {k : Knowledge} {table : String} {record : Source.Record}
    {fields : List Field} {values : List Value}
    (h : plainValues k table record fields = .ok values) : values.length = fields.length := by
  induction fields generalizing values with
  | nil =>
      cases h
      rfl
  | cons f rest ih =>
      unfold plainValues at h
      obtain ⟨raw, _, h⟩ := except_bind_ok h
      obtain ⟨v, _, h⟩ := except_bind_ok h
      obtain ⟨others, went, h⟩ := except_bind_ok h
      cases h
      exact congrArg (· + 1) (ih went)

end Resolve

namespace Write

/-- The statement of a row to be updated by key fields, as far as the dictionary lists the columns of a
change. -/
def keyedStatement (listed : String → Bool) (table : String) (context : Context) (first : Field)
    (keyFields : List Field) (columns : Columns) (row : Int) : Except Fault (Option Statement) :=
  let conditions := keyConditions keyFields columns
  let sets := withoutKeys keyFields columns
  if conditions.any (fun c => c.2 = .null) then .error (notFound row first conditions)
  else if sets.isEmpty then .ok none
  else (Statement.makeUpdate table (stamped context listed sets) conditions).map some

theorem runOn_prepareKeyed {w : Workspace} (usable : w.breakdown = none) (table : String)
    (context : Context) (first : Field) (keyFields : List Field) (columns : Columns) (row : Int) :
    ∃ w', (prepareKeyed table context first keyFields columns row).runOn w =
      ((keyedStatement (lists w table) table context first keyFields columns row).mapError .fault,
        w') ∧ Asked w w' := by
  unfold prepareKeyed keyedStatement
  dsimp only
  split
  · exact ⟨w, Work.runOn_ofFault_error _ w, .refl w⟩
  · split
    · exact ⟨w, rfl, .refl w⟩
    · obtain ⟨w', ran, asked, _⟩ := runOn_withChange usable table context
        (withoutKeys keyFields columns)
      refine ⟨w', ?_, asked⟩
      unfold prepareChange
      rw [map_eq_pure_bind, bind_assoc, Work.runOn_bind_of_ok ran]
      cases Statement.makeUpdate table (stamped context (lists w table)
        (withoutKeys keyFields columns)) (keyConditions keyFields columns) <;> rfl

end Write

namespace Run

open RowLoader.Write RowLoader.Source

/-- The table, the context and the fields of a run that updates by key fields, with what is known of the
columns. -/
structure KeyedRun where
  knows : Knowledge
  table : String
  context : Context
  fields : List Field
  first : Field

namespace KeyedRun

def statement (run : KeyedRun) (record : Record) : Except Failure (Option Statement) := do
  let values ← plainValues run.knows run.table record run.fields
  (keyedStatement run.knows.listed run.table run.context run.first (keys run.fields)
    (enterValues [] (run.fields.zip values)) record.row).mapError .fault

def step (run : KeyedRun) (s : Store) (record : Record) : Except Failure (Outcome × Store) := do
  match ← run.statement record with
  | none => return (nothingToUpdate record.row, s)
  | some statement =>
    let (s', affected) ← execute s statement
    let outcome ← (conclude run.fields record.row statement affected).mapError .fault
    return (outcome, s')

def steps (run : KeyedRun) : Store → List Record → Except Failure (List Outcome × Store)
  | s, [] => .ok ([], s)
  | s, record :: rest => do
    let (outcome, s') ← run.step s record
    let (outcomes, s'') ← run.steps s' rest
    return (outcome :: outcomes, s'')

end KeyedRun

/-- A later workspace of a run knows what its first one knew: it can be used, it remembers more, and the
dictionary is the same. -/
structure Sees (base u : Workspace) : Prop where
  usable : u.breakdown = none
  sound : u.store.WellFormed
  more : base.memo.Extends base.store u.memo
  tables : u.store.table? tableTable = base.store.table? tableTable
  columns : u.store.table? columnTable = base.store.table? columnTable

theorem Sees.refl {w : Workspace} (usable : w.breakdown = none) (sound : w.store.WellFormed) :
    Sees w w :=
  ⟨usable, sound, .refl w.store w.memo, rfl, rfl⟩

theorem Sees.asked {base u v : Workspace} (sees : Sees base u) (asked : Asked u v) :
    Sees base v := by
  have same := asked.store
  refine ⟨asked.breakdown.trans sees.usable, same ▸ sees.sound, ?_, ?_, ?_⟩
  · exact sees.more.trans (asked.more.congr sees.tables.symm sees.columns.symm)
  · rw [same, sees.tables]
  · rw [same, sees.columns]

theorem Sees.known_eq {base u : Workspace} (sees : Sees base u) (sound : base.store.WellFormed)
    (table : String) : known u table = known base table := by
  refine known_congr sees.sound sound ?_ ?_
  · intro column
    rw [locate_congr sees.tables sees.columns, locate_of_extends sees.more]
  · intro id
    rw [consult_congr sees.columns, consult_of_extends sound sees.more]

theorem execute_update_table? {s s' : Store} {table : String} {sets : Columns}
    {conditions : List (String × Value)} {affected : Nat}
    (h : execute s (.update table sets conditions) = .ok (s', affected)) {name : String}
    (other : sameName (bare table) name = false) : s'.table? name = s.table? name := by
  obtain ⟨t, a, c, t', found, _, _, updated, rfl⟩ := execute_update_ok h
  refine table?_replaceTable_of_ne s ?_
  rw [(updateIn_same updated).1, sameName_left (table?_some found).2]
  exact other

def dictionaryTables : List String :=
  [tableTable, tabTable, columnTable, sequenceTable, templateTable]

def Beside (name : String) : Prop :=
  ∀ d ∈ dictionaryTables, sameName name d = false

/-- The names that a row with key fields sets: its targets besides the keys, and if there is one, the time
and the user of the change where they are listed. -/
def setNames (heading : Heading) (listed : String → Bool) : List String :=
  let own := heading.targets.filter (· ∉ heading.keys)
  if own.isEmpty then [] else namesStamped listed own

/-- A row with key fields has a value for each of them, and sets something by one statement for these
values or nothing at all. -/
theorem keyedStatement_cases {listed : String → Bool} {table : String} {context : Context}
    {first : Field} {keyFields : List Field} {columns : Columns} {row : Int}
    {prepared : Option Statement}
    (h : keyedStatement listed table context first keyFields columns row = .ok prepared) :
    (∀ c ∈ keyConditions keyFields columns, c.2 ≠ .null) ∧
      (prepared = none ∨ (withoutKeys keyFields columns).isEmpty = false ∧
        prepared = some (.update table (stamped context listed (withoutKeys keyFields columns))
          (keyConditions keyFields columns))) := by
  unfold keyedStatement at h
  dsimp only at h
  split at h
  · cases h
  · rename_i given
    refine ⟨?_, ?_⟩
    · intro c member absent
      exact given (List.any_eq_true.mpr ⟨c, member, decide_eq_true absent⟩)
    · split at h
      · exact .inl (Except.ok.inj h).symm
      · rename_i filled
        obtain ⟨statement, made, rfl⟩ := except_map_ok.mp h
        exact .inr ⟨by simpa using filled, congrArg some (Statement.makeUpdate_eq made)⟩

theorem keyedStatement_ok {listed : String → Bool} {table : String} {context : Context}
    {first : Field} {keyFields : List Field} {columns : Columns} {row : Int} {made : Statement}
    (h : keyedStatement listed table context first keyFields columns row = .ok (some made)) :
    made = .update table (stamped context listed (withoutKeys keyFields columns))
        (keyConditions keyFields columns) ∧
      (withoutKeys keyFields columns).isEmpty = false := by
  obtain ⟨_, absent | ⟨filled, same⟩⟩ := keyedStatement_cases h
  · cases absent
  · exact ⟨Option.some.inj same, filled⟩

def KeyedRun.sets (run : KeyedRun) : List String :=
  setNames (headingOf run.fields) run.knows.listed

def KeyedRun.picks (run : KeyedRun) : List String :=
  (headingOf run.fields).keys

/-- All records of a run set the same names and pick rows by the same names. -/
theorem KeyedRun.statement_ok {run : KeyedRun} {record : Record} {made : Statement}
    (h : run.statement record = .ok (some made)) :
    ∃ sets conditions, made = .update run.table sets conditions ∧ sets.names = run.sets ∧
      conditions.map (·.1) = run.picks := by
  obtain ⟨values, each, h⟩ := except_bind_ok h
  cases built : keyedStatement run.knows.listed run.table run.context run.first (keys run.fields)
      (enterValues [] (run.fields.zip values)) record.row with
  | error e =>
      rw [built] at h
      cases h
  | ok statement =>
      rw [built] at h
      cases h
      obtain ⟨rfl, filled⟩ := keyedStatement_ok built
      have own : (withoutKeys (keys run.fields) (enterValues [] (run.fields.zip values))).names =
          (headingOf run.fields).targets.filter (· ∉ (headingOf run.fields).keys) := by
        rw [names_withoutKeys, names_enterValues (length_plainValues each), targets_keys,
          targets_headingOf]
      refine ⟨_, _, rfl, ?_, ?_⟩
      · have some : ((headingOf run.fields).targets.filter
            (· ∉ (headingOf run.fields).keys)).isEmpty = false := by
          rw [← own]
          unfold Columns.names
          rw [List.isEmpty_map, filled]
        unfold KeyedRun.sets setNames
        dsimp only
        rw [some, if_neg Bool.false_ne_true, names_stamped, own]
      · unfold keyConditions KeyedRun.picks
        rw [List.map_map, ← targets_keys]
        rfl

/-- A run whose fields have a key and no look-up, and whose table is none of the dictionary, as it begins
in a workspace. -/
structure KeyedRun.Begins (run : KeyedRun) (base : Workspace) : Prop where
  usable : base.breakdown = none
  sound : base.store.WellFormed
  knows : run.knows = known base run.table
  beside : Beside (bare run.table)
  keyed : ∃ rest, keys run.fields = run.first :: rest
  plain : ∀ f ∈ run.fields, f.lookup = none

theorem KeyedRun.Begins.runOn_prepareRecord {run : KeyedRun} {base u : Workspace}
    (begins : run.Begins base) (sees : Sees base u) (template : Template) (record : Record) :
    ∃ v, (prepareRecord run.table template run.context .update run.fields record).runOn u =
      (run.statement record, v) ∧ Asked u v := by
  obtain ⟨mid, each, asked⟩ :=
    runOn_resolveEach_plain sees.usable sees.sound run.table record begins.plain
  rw [sees.known_eq begins.sound, ← begins.knows] at each
  unfold prepareRecord KeyedRun.statement
  rw [Work.runOn_bind, runOn_resolveRow, Work.runOn_bind, each]
  cases plainValues run.knows run.table record run.fields with
  | error e => exact ⟨mid, rfl, asked⟩
  | ok values =>
      obtain ⟨rest, keyed⟩ := begins.keyed
      obtain ⟨v, ran, later⟩ := runOn_prepareKeyed (asked.breakdown.trans sees.usable) run.table
        run.context run.first (keys run.fields) (enterValues [] (run.fields.zip values)) record.row
      have listed : lists mid run.table = run.knows.listed := by
        rw [begins.knows, ← sees.known_eq begins.sound, ← known_of_asked sees.sound asked]
        rfl
      rw [listed] at ran
      refine ⟨v, ?_, asked.trans later⟩
      rw [except_ok_bind, ← ran, keyed]
      dsimp only [Work.runOn_pure]
      unfold prepareUpdate
      rw [keyed]

/-- A record does to the workspace what its step does to the store. -/
theorem KeyedRun.Begins.runOn_writeRecord {run : KeyedRun} {base u : Workspace}
    (begins : run.Begins base) (sees : Sees base u) (template : Template) (record : Record) :
    ∃ u', (writeRecord run.table template run.context .update run.fields record).runOn u =
        ((run.step u.store record).map (·.1), u') ∧
      ∀ r, run.step u.store record = .ok r → u'.store = r.2 ∧ Sees base u' := by
  obtain ⟨v, prepared, asked⟩ := begins.runOn_prepareRecord sees template record
  have later := sees.asked asked
  have same := asked.store
  rw [writeRecord_eq]
  unfold KeyedRun.step
  cases made : run.statement record with
  | error e =>
      rw [made] at prepared
      refine ⟨v, Work.runOn_bind_of_error prepared _, ?_⟩
      rintro r ⟨⟩
  | ok statement =>
      rw [made] at prepared
      rw [Work.runOn_bind_of_ok prepared, except_ok_bind]
      cases statement with
      | none =>
          refine ⟨v, rfl, ?_⟩
          rintro r ⟨⟩
          exact ⟨same, later⟩
      | some statement =>
          have ran := Work.runOn_execute later.usable statement
          rw [same] at ran
          dsimp only [finish]
          cases executed : execute u.store statement with
          | error e =>
              rw [executed] at ran
              refine ⟨_, Work.runOn_bind_of_error ran _, ?_⟩
              rintro r ⟨⟩
          | ok r =>
              obtain ⟨s', affected⟩ := r
              rw [executed] at ran
              rw [Work.runOn_bind_of_ok ran, except_ok_bind]
              dsimp only
              refine ⟨{ v with store := s', isOpen := true }, ?_, ?_⟩
              · cases conclude run.fields record.row statement affected <;> rfl
              · intro r done
                obtain ⟨outcome, _, done⟩ := except_bind_ok done
                cases done
                obtain ⟨sets, conditions, rfl, _, _⟩ := KeyedRun.statement_ok made
                have frame := fun name member =>
                  execute_update_table? executed (begins.beside name member)
                refine ⟨rfl, later.usable, execute_wellFormed sees.sound executed, later.more, ?_, ?_⟩
                · exact (frame tableTable (by decide)).trans sees.tables
                · exact (frame columnTable (by decide)).trans sees.columns

theorem KeyedRun.Begins.runOn_writeRecords {run : KeyedRun} {base u : Workspace}
    (begins : run.Begins base) (sees : Sees base u) (template : Template) (report : Report)
    (records : List Record) :
    ∃ u', (writeRecords run.table template run.context .update run.fields report records).runOn u =
        ((run.steps u.store records).map fun r => report.addAll r.1, u') ∧
      ∀ r, run.steps u.store records = .ok r → u'.store = r.2 ∧ Sees base u' := by
  induction records generalizing u report with
  | nil =>
      refine ⟨u, rfl, ?_⟩
      rintro r ⟨⟩
      exact ⟨rfl, sees⟩
  | cons record later ih =>
      obtain ⟨v, written, after⟩ := begins.runOn_writeRecord sees template record
      unfold writeRecords KeyedRun.steps
      cases stepped : run.step u.store record with
      | error e =>
          rw [stepped] at written
          refine ⟨v, Work.runOn_bind_of_error written _, ?_⟩
          rintro r ⟨⟩
      | ok r =>
          obtain ⟨outcome, s'⟩ := r
          rw [stepped] at written
          obtain ⟨rfl, again⟩ := after _ stepped
          rw [Work.runOn_bind_of_ok written, except_ok_bind]
          obtain ⟨u', ran, ended⟩ := ih again (report.add outcome)
          refine ⟨u', ?_, ?_⟩
          · rw [ran]
            dsimp only
            cases run.steps v.store later <;> rfl
          · intro r done
            obtain ⟨others, went, done⟩ := except_bind_ok done
            cases done
            obtain ⟨stored, seen⟩ := ended _ went
            exact ⟨stored, seen⟩

namespace KeyedRun

def alone (run : KeyedRun) (s : Store) (record : Record) : Except Failure Outcome :=
  (run.step s record).map (·.1)

def target (run : KeyedRun) (s : Store) : Table :=
  s.tableAt (bare run.table)

/-- The change that a record makes to the rows of the target, none where there is nothing to update. -/
def changes (run : KeyedRun) (s : Store) (record : Record) : List Change :=
  match run.statement record with
  | .ok (some (.update _ sets conditions)) => [changeOf (run.target s) s.now sets conditions]
  | _ => []

def rewrite (run : KeyedRun) (s : Store) (g : Row → Row) : Store :=
  s.mapRows (bare run.table) g

/-- What a run sets in its table does not tell rows apart, and is not what it picks rows by. -/
def TameIn (run : KeyedRun) (s : Store) : Prop :=
  ∀ t, s.table? (bare run.table) = some t → Tame t run.sets run.picks

variable {run : KeyedRun} {s : Store}

theorem step_showing (timeless : ∀ n ∈ run.picks, isAmong clockWords n = false) (s : Store)
    (now : Calendar.Timestamp) (record : Record) : run.step (s.showing now) record =
      (run.step s record).map fun r => (r.1, r.2.showing now) := by
  unfold step
  cases made : run.statement record with
  | error e => rfl
  | ok prepared =>
      rw [except_ok_bind, except_ok_bind]
      cases prepared with
      | none => rfl
      | some statement =>
          obtain ⟨sets, conditions, rfl, _, picked⟩ := statement_ok made
          have free : ∀ c ∈ conditions, isAmong clockWords c.1 = false :=
            fun c member => timeless c.1 (picked ▸ List.mem_map_of_mem member)
          dsimp only
          rw [execute_showing free]
          cases execute s (.update run.table sets conditions) with
          | error e => rfl
          | ok r =>
              dsimp only [Except.map]
              rw [except_ok_bind, except_ok_bind]
              cases conclude run.fields record.row (.update run.table sets conditions) r.2 <;> rfl

/-- Records that pick rows by no word for the present moment do the same at any time. -/
theorem steps_showing (timeless : ∀ n ∈ run.picks, isAmong clockWords n = false) (s : Store)
    (now : Calendar.Timestamp) (records : List Record) : run.steps (s.showing now) records =
      (run.steps s records).map fun r => (r.1, r.2.showing now) := by
  induction records generalizing s with
  | nil => rfl
  | cons record rest ih =>
      unfold steps
      rw [step_showing timeless]
      cases run.step s record with
      | error e => rfl
      | ok r =>
          dsimp only [Except.map]
          rw [except_ok_bind, except_ok_bind, ih]
          cases run.steps r.2 rest <;> rfl

/-- Where rows were changed in the slots that a run sets, a record does what it does by itself. -/
theorem step_rewrite (tame : run.TameIn s) {g : Row → Row}
    (kept : Keeps (run.target s) (slotsOf (run.target s) run.sets) g) (record : Record) :
    run.step (run.rewrite s g) record = (run.step s record).map fun r =>
      (r.1, run.rewrite s fun r =>
        applyAll (run.target s) (run.changes s record) (g r)) := by
  unfold step changes
  cases made : run.statement record with
  | error e => rfl
  | ok prepared =>
      rw [except_ok_bind, except_ok_bind]
      cases prepared with
      | none => rfl
      | some statement =>
          obtain ⟨sets, conditions, rfl, named, picked⟩ := statement_ok made
          rw [← named] at kept
          unfold TameIn at tame
          rw [← named, ← picked] at tame
          have executed := execute_mapRows tame kept
          dsimp only
          unfold rewrite
          rw [executed]
          cases execute s (.update run.table sets conditions) with
          | error e => rfl
          | ok r =>
              rw [except_ok_bind]
              dsimp only [Except.map]
              rw [except_ok_bind]
              cases conclude run.fields record.row (.update run.table sets conditions) r.2 <;> rfl

theorem changes_ok {record : Record} {outcome : Outcome} (succeeds : run.alone s record = .ok outcome)
    {change : Change} (member : change ∈ run.changes s record) :
    ∃ sets conditions r, run.statement record = .ok (some (.update run.table sets conditions)) ∧
      execute s (.update run.table sets conditions) = .ok r ∧
      change = changeOf (run.target s) s.now sets conditions := by
  unfold changes at member
  split at member
  · rename_i table sets conditions made
    obtain ⟨_, _, same, _, _⟩ := statement_ok made
    cases same
    unfold alone step at succeeds
    rw [made, except_ok_bind] at succeeds
    dsimp only at succeeds
    cases executed : execute s (.update run.table sets conditions) with
    | error e =>
        rw [executed] at succeeds
        cases succeeds
    | ok r => exact ⟨sets, conditions, r, made, executed, List.mem_singleton.mp member⟩
  · cases member

theorem within_changes (tame : run.TameIn s) {record : Record} {outcome : Outcome}
    (succeeds : run.alone s record = .ok outcome) :
    ∀ change ∈ run.changes s record,
      change.Within (run.target s) (slotsOf (run.target s) run.sets) := by
  intro change member
  obtain ⟨sets, conditions, r, made, executed, rfl⟩ := changes_ok succeeds member
  obtain ⟨_, _, same, named, picked⟩ := statement_ok made
  cases same
  obtain ⟨there, placed, conditioned⟩ := execute_update_placed executed
  have fine := tame _ there
  rw [← named, ← picked] at fine
  rw [← named]
  exact fine.within placed conditioned

/-- Records succeed one after the other exactly when each of them succeeds by itself, and then the same
is told of them, and the rows have gone through all their changes. -/
theorem steps_rewrite_iff (tame : run.TameIn s) {g : Row → Row}
    (kept : Keeps (run.target s) (slotsOf (run.target s) run.sets) g) {records : List Record}
    {outcomes : List Outcome} {s' : Store} :
    run.steps (run.rewrite s g) records = .ok (outcomes, s') ↔
      List.Forall₂ (fun record outcome => run.alone s record = .ok outcome) records outcomes ∧
        s' = run.rewrite s fun r =>
          applyAll (run.target s) (records.flatMap (run.changes s)) (g r) := by
  -- what the earlier records have changed is in the map of the rows, which keeps what is not set
  induction records generalizing g outcomes with
  | nil =>
      constructor
      · rintro ⟨⟩
        exact ⟨.nil, rfl⟩
      · rintro ⟨⟨⟩, rfl⟩
        rfl
  | cons record rest ih =>
      unfold steps
      rw [step_rewrite tame kept]
      cases stepped : run.step s record with
      | error e =>
          constructor
          · intro h
            cases h
          · rintro ⟨each, _⟩
            cases each with
            | cons here _ =>
                unfold alone at here
                rw [stepped] at here
                cases here
      | ok r =>
          have here : run.alone s record = .ok r.1 := by
            unfold alone
            rw [stepped]
            rfl
          have first := keeps_applyAll (within_changes tame here)
          have later := @ih _ (first.comp kept)
          have joined : ∀ r, applyAll (run.target s)
              ((record :: rest).flatMap (run.changes s)) (g r) =
                applyAll (run.target s) (rest.flatMap (run.changes s))
                  (applyAll (run.target s) (run.changes s record) (g r)) :=
            fun r => applyAll_append _ _ _ _
          dsimp only [Except.map]
          rw [except_ok_bind]
          simp only [joined]
          constructor
          · intro h
            obtain ⟨⟨others, last⟩, went, done⟩ := except_bind_ok h
            cases done
            obtain ⟨each, rfl⟩ := later.mp went
            exact ⟨.cons here each, rfl⟩
          · rintro ⟨each, rfl⟩
            cases each with
            | cons told others =>
                rw [here] at told
                cases told
                rw [later.mpr ⟨others, rfl⟩]
                rfl

theorem within_flatMap (tame : run.TameIn s) {records : List Record} {outcomes : List Outcome}
    (each : List.Forall₂ (fun record outcome => run.alone s record = .ok outcome) records outcomes) :
    ∀ change ∈ records.flatMap (run.changes s),
      change.Within (run.target s) (slotsOf (run.target s) run.sets) := by
  intro change member
  obtain ⟨record, inside, made⟩ := List.mem_flatMap.mp member
  obtain ⟨outcome, _, succeeds⟩ := mem_left_of_forall₂ each inside
  exact within_changes tame succeeds change made

theorem steps_iff (tame : run.TameIn s) {records : List Record} {outcomes : List Outcome}
    {s' : Store} :
    run.steps s records = .ok (outcomes, s') ↔
      List.Forall₂ (fun record outcome => run.alone s record = .ok outcome) records outcomes ∧
        s' = run.rewrite s (applyAll (run.target s) (records.flatMap (run.changes s))) := by
  have same : run.rewrite s (fun r => r) = s := mapRows_same s (bare run.table)
  have whole := @steps_rewrite_iff run s tame (fun r => r)
    (.refl (run.target s) (slotsOf (run.target s) run.sets)) records outcomes s'
  rw [same] at whole
  exact whole

theorem steps_again (tame : run.TameIn s) {records : List Record} {outcomes : List Outcome}
    {s' : Store} (h : run.steps s records = .ok (outcomes, s')) :
    run.steps s' records = .ok (outcomes, s') := by
  obtain ⟨each, rfl⟩ := (steps_iff tame).mp h
  have within := within_flatMap tame each
  -- the second time the records come to rows that went through all their changes already
  refine (steps_rewrite_iff tame (keeps_applyAll within)).mpr ⟨each, ?_⟩
  exact congrArg (run.rewrite s) (funext fun r => (applyAll_applyAll within r).symm)

end KeyedRun

end Run

end RowLoader
