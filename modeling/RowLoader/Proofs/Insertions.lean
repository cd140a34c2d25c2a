import RowLoader.Proofs.Insertion
import RowLoader.Proofs.Validation

/-!
A run that inserts. Every data line becomes one new row of the table, and the rows before the run stay;
the rows without a key get the successive keys of one sequence, and nothing else in the store changes.
-/

namespace RowLoader.Run

open RowLoader.Header RowLoader.Source RowLoader.Dictionary RowLoader.Store RowLoader.Complete
open RowLoader.Text RowLoader.Identifier RowLoader.Write

/-- A record has no value for the key of the table: it has no field for it, or null there. -/
def lacksKey (table : String) (fields : List Field) (values : List Value) : Bool :=
  (valued fields values).all fun c => upper c.1 ≠ upper (Complete.keyColumn table) || c.2 = .null

/-- A record became a new row of a table. Every value is what the cell of its field is resolved to in
the workspace before the record, and the row has what is stored for these values, or for the defaults
of system columns that are null or missing. -/
structure Becomes (table : String) (template : Template) (context : Context) (fields : List Field)
    (u : Workspace) (record : Record) (key : Value) (values : List Value) (r : Row) : Prop where
  resolved : List.Forall₂ (fun f v => ∃ raw, record.cell f = .ok raw ∧
    ((Resolve.resolve table f raw record.row).runOn u).1 = .ok v) fields values
  filled : ∃ t listed, u.store.table? (bare table) = some t ∧
    ((Work.hasColumn table activeColumn).runOn u).1 = .ok listed ∧
    Filled t (valued fields values)
      (systemDefaults table template context key listed (u.uniqueId u.drawn)) r

theorem lacksKey_iff {table : String} {fields : List Field} {values : List Value}
    (apart : Apart (valued fields values)) : lacksKey table fields values = true ↔
      valueIn (valued fields values) (Complete.keyColumn table) = .null := by
  rw [apart.valueIn_eq_null]
  unfold lacksKey
  rw [List.all_eq_true]
  refine forall_congr' fun c => forall_congr' fun _ => ?_
  simp only [Bool.or_eq_true, decide_eq_true_eq, ne_eq]
  tauto

/-- Writing one record in a run that inserts adds one row to the table. A key is drawn where the record
lacks one, and else the store changes in that table only. -/
theorem writeRecord_becomes {table : String} {template : Template} {context : Context}
    {fields : List Field} {record : Record} {u u' : Workspace} {outcome : Outcome}
    (usable : u.breakdown = none) (sound : u.store.WellFormed) (separate : Separate fields)
    (other : sameName sequenceTable (bare table) = false)
    (h : (writeRecord table template context .insert fields record).runOn u = (.ok outcome, u')) :
    ∃ key mid values t r, Becomes table template context fields u record key values r ∧
      (if lacksKey table fields values = true then nextKey u.store table = .ok (some key, mid)
      else mid = u.store) ∧
      u.store.table? (bare table) = some t ∧
      u'.store = mid.replaceTable { t with rows := insertRow r t.rows } ∧
      u'.store.WellFormed ∧ u'.breakdown = none := by
  unfold writeRecord at h
  obtain ⟨columns, reached, resolved, h⟩ := Work.bind_ok h
  rw [Resolve.runOn_resolveRow] at resolved
  obtain ⟨values, last, each, ended⟩ := Work.bind_ok resolved
  obtain ⟨rfl, rfl⟩ := Work.pure_ok ended
  obtain ⟨asked, cells⟩ := Resolve.resolveEach_ok usable sound each
  have length := Resolve.length_of_resolveEach each
  rw [separate.enterValues_eq length] at h
  obtain ⟨apart, key, mid, t, r, drawn, found, stored, solid, kept, filled⟩ :=
    insert_fills (asked.store ▸ sound) (separate.distinct_valued length)
      (separate.named_valued length) other h
  obtain ⟨more, opened, same⟩ := asked
  rw [same] at drawn found kept filled
  dsimp only at drawn found kept filled
  rw [locate_of_extends more] at filled
  refine ⟨key, mid, values, t, r, ⟨?_, t, _, found, Work.runOn_hasColumn usable _ _, filled⟩, ?_,
    found, stored, solid, kept.trans usable⟩
  · refine cells.imp ?_
    rintro f v ⟨raw, cell, value⟩
    obtain ⟨later, ran, _⟩ := Resolve.runOn_resolve usable table f raw record.row
    exact ⟨raw, cell, by rw [ran]; exact value⟩
  · rw [if_congr (lacksKey_iff apart) rfl rfl]
    unfold Draws at drawn
    split at drawn
    · rename_i null
      rw [if_pos null]
      exact drawn
    · rename_i given
      rw [if_neg given]
      exact drawn.2

/-- A store came from another one by adding rows to a table, for some of which a key was drawn from the
sequence of the table. -/
structure Grown (s : Store) (table : String) (n : Nat) (rows : List Row) (s' : Store) : Prop where
  target : ∃ now, s'.table? (bare table) =
      (s.table? (bare table)).map (fun t => { t with rows := now }) ∧
    now.Perm (rowsOf s (bare table) ++ rows)
  sequences : s'.table? sequenceTable = (s.table? sequenceTable).map (afterKeys · table n)
  others : ∀ name, sameName sequenceTable name = false → sameName (bare table) name = false →
    s'.table? name = s.table? name

theorem Grown.refl {s : Store} (sound : s.WellFormed) (table : String) : Grown s table 0 [] s := by
  constructor
  · refine ⟨rowsOf s (bare table), ?_, by rw [List.append_nil]⟩
    unfold rowsOf
    cases s.table? (bare table) <;> rfl
  · obtain ⟨q, found, shape⟩ := sequences_of_wellFormed sound
    rw [found, Option.map_some, afterKeys_zero shape]
  · exact fun name _ _ => rfl

theorem Grown.nextKey {s u v : Store} {table : String} {n : Nat} {rows : List Row}
    (grown : Grown s table n rows u) (sound : s.WellFormed)
    (other : sameName sequenceTable (bare table) = false) {key : Value}
    (h : nextKey u table = .ok (some key, v)) :
    (∃ c, keyNumber? s table n = some c ∧ key = c.value) ∧ Grown s table (n + 1) rows v := by
  obtain ⟨numbered, handed⟩ := nextKey_keyNumber? sound grown.sequences h
  refine ⟨numbered, ?_, handed, ?_⟩
  · rw [nextKey_table? h other]
    exact grown.target
  · intro name apart beside
    rw [nextKey_table? h apart]
    exact grown.others name apart beside

theorem Grown.insertRow {s u : Store} {table : String} {n : Nat} {rows : List Row}
    (grown : Grown s table n rows u) (other : sameName sequenceTable (bare table) = false)
    {t : Table} (found : u.table? (bare table) = some t) (r : Row) :
    Grown s table n (rows ++ [r]) (u.replaceTable { t with rows := insertRow r t.rows }) := by
  have named := (table?_some found).2
  have apart : ∀ name, sameName (bare table) name = false →
      (u.replaceTable { t with rows := Store.insertRow r t.rows }).table? name = u.table? name := by
    intro name beside
    refine table?_replaceTable_of_ne u ?_
    change sameName t.name name = false
    rw [sameName_left named]
    exact beside
  constructor
  · obtain ⟨now, before, perm⟩ := grown.target
    rw [found] at before
    cases original : s.table? (bare table) with
    | none =>
        rw [original] at before
        cases before
    | some t₀ =>
        rw [original] at before
        cases before
        refine ⟨Store.insertRow r now, table?_replaceTable_self found rfl, ?_⟩
        calc
          (Store.insertRow r now).Perm (r :: now) := insertRow_perm r now
          (r :: now).Perm (r :: (rowsOf s (bare table) ++ rows)) := perm.cons r
          (r :: (rowsOf s (bare table) ++ rows)).Perm ((rowsOf s (bare table) ++ rows) ++ [r]) :=
            (List.perm_append_singleton r _).symm
          ((rowsOf s (bare table) ++ rows) ++ [r]).Perm (rowsOf s (bare table) ++ (rows ++ [r])) := by
            rw [List.append_assoc]
  · rw [apart sequenceTable (by rw [sameName_comm]; exact other)]
    exact grown.sequences
  · intro name away beside
    rw [apart name beside]
    exact grown.others name away beside

/-- Records of a run that inserts became rows one after the other. Of the successive keys of a table,
those from a number on went to the records that lack one, in their order. -/
inductive Inserted (table : String) (template : Template) (context : Context) (fields : List Field)
    (keys : Nat → Option Cell) :
    Nat → Workspace → List Record → List Row → Nat → Workspace → Prop where
  | nil (n : Nat) (u : Workspace) : Inserted table template context fields keys n u [] [] n u
  | cons {n m : Nat} {u v u' : Workspace} {record : Record} {records : List Record} {r : Row}
      {rows : List Row} {outcome : Outcome} {key : Value} {values : List Value}
      (written : (writeRecord table template context .insert fields record).runOn u =
        (.ok outcome, v))
      (becomes : Becomes table template context fields u record key values r)
      (keyed : lacksKey table fields values = true → ∃ c, keys n = some c ∧ key = c.value)
      (later : Inserted table template context fields keys
        (if lacksKey table fields values = true then n + 1 else n) v records rows m u') :
      Inserted table template context fields keys n u (record :: records) (r :: rows) m u'

theorem Inserted.length_eq {table : String} {template : Template} {context : Context}
    {fields : List Field} {keys : Nat → Option Cell} {n m : Nat} {u u' : Workspace}
    {records : List Record} {rows : List Row}
    (h : Inserted table template context fields keys n u records rows m u') :
    rows.length = records.length := by
  induction h with
  | nil => rfl
  | cons _ _ _ _ ih => exact congrArg (· + 1) ih

theorem Grown.writeRecord {s : Store} {table : String} {n : Nat} {rows : List Row} {u v : Workspace}
    (grown : Grown s table n rows u.store) (sound : s.WellFormed) (usable : u.breakdown = none)
    (solid : u.store.WellFormed) {fields : List Field} (separate : Separate fields)
    (other : sameName sequenceTable (bare table) = false) {template : Template} {context : Context}
    {record : Record} {outcome : Outcome}
    (h : (writeRecord table template context .insert fields record).runOn u = (.ok outcome, v)) :
    ∃ key values r, Becomes table template context fields u record key values r ∧
      (lacksKey table fields values = true →
        ∃ c, keyNumber? s table n = some c ∧ key = c.value) ∧
      Grown s table (if lacksKey table fields values = true then n + 1 else n) (rows ++ [r])
        v.store ∧
      v.store.WellFormed ∧ v.breakdown = none := by
  obtain ⟨key, mid, values, t, r, becomes, drawn, found, stored, kept, fine⟩ :=
    writeRecord_becomes usable solid separate other h
  refine ⟨key, values, r, becomes, ?_⟩
  rw [stored] at kept ⊢
  split at drawn
  · rename_i lacks
    obtain ⟨numbered, keyed⟩ := grown.nextKey sound other drawn
    rw [← nextKey_table? drawn other] at found
    rw [if_pos lacks]
    exact ⟨fun _ => numbered, keyed.insertRow other found r, kept, fine⟩
  · rename_i has
    subst drawn
    rw [if_neg has]
    exact ⟨fun lacks => absurd lacks has, grown.insertRow other found r, kept, fine⟩

/-- What all records do, one after the other, to a store that grew so far. -/
theorem Grown.writeRecords {s : Store} {table : String} {n : Nat} {rows : List Row}
    {u u' : Workspace} (grown : Grown s table n rows u.store) (sound : s.WellFormed)
    (usable : u.breakdown = none) (solid : u.store.WellFormed) {fields : List Field}
    (separate : Separate fields) (other : sameName sequenceTable (bare table) = false)
    {template : Template} {context : Context} {records : List Record} {report report' : Report}
    (h : (writeRecords table template context .insert fields report records).runOn u =
      (.ok report', u')) :
    ∃ new m, Inserted table template context fields (keyNumber? s table) n u records new m u' ∧
      Grown s table m (rows ++ new) u'.store := by
  induction records generalizing n rows u report with
  | nil =>
      obtain ⟨_, rfl⟩ := Work.pure_ok h
      refine ⟨[], n, .nil n _, ?_⟩
      rw [List.append_nil]
      exact grown
  | cons record rest ih =>
      obtain ⟨outcome, v, written, h⟩ := Work.bind_ok h
      obtain ⟨key, values, r, becomes, keyed, grown, solid, usable⟩ :=
        grown.writeRecord sound usable solid separate other written
      obtain ⟨new, m, inserted, final⟩ := ih grown usable solid h
      refine ⟨r :: new, m, .cons written becomes keyed inserted, ?_⟩
      rw [List.append_assoc] at final
      exact final

/-- A run that inserts under different targets turns every data line into one new row, in the order of
the lines: each value is resolved in the workspace that the lines before it left, and the rows that
lack a key get the successive keys of the table. The rows before the run stay, the sequence goes on by
as many keys as were drawn, and nothing else in the store changes. -/
theorem importLines_inserts_each_line {template : Template} {context : Context}
    {lines : List String} {w w' : Workspace} {report : Report} {table : String} {p : Plan}
    (sound : w.store.WellFormed) (named : ((tableOf template).runOn w).1 = .ok table)
    (planned : plan template.header lines = .ok p)
    (distinct : p.fields.Pairwise fun f g => sameName f.target g.target = false)
    (unaliased : ∀ f ∈ p.fields, isIdName f.target = false)
    (other : sameName (bare table) sequenceTable = false)
    (ran : (importLines template context .insert lines).runOn w = (.ok report, w')) :
    ∃ rows n u, Inserted table template context p.fields (keyNumber? w.store table) 0 (begun w)
        (p.data.mapIdx fun i line => recordOf p.fields p.separator (p.firstRow + i) line) rows n u ∧
      rows.length = p.data.length ∧ u.store = w'.store ∧ Grown w.store table n rows w'.store ∧
      ∀ r a b, sequenceRow? w.store table = some r → currentNext w.store r = .int a →
        step w.store r = .int b → ∃ r', sequenceRow? w'.store table = some r' ∧
          currentNext w'.store r' = .int (a + n * b) := by
  obtain ⟨answer, store⟩ := runOn_importLines named context .insert lines
  obtain ⟨usable, _⟩ := tableOf_ok named
  rw [ran, runOn_importInto table context .insert planned] at answer store
  cases clean : p.problems with
  | cons first rest =>
      rw [clean] at answer
      cases answer
  | nil =>
      rw [clean] at answer store
      dsimp only at answer store
      have separate : Separate p.fields := ⟨distinct, unaliased, bare_target_of_plan planned⟩
      rw [sameName_comm] at other
      obtain ⟨u, went⟩ : ∃ u, (writeRecords table template context .insert p.fields
          { Report.empty with table := some table, mode := .insert, totalRows := p.records.length }
          p.records).runOn (begun w) = (.ok report, u) := ⟨_, Prod.ext answer.symm rfl⟩
      rw [went] at store
      obtain ⟨rows, n, inserted, grown⟩ := (Grown.refl sound table).writeRecords sound
        (u := begun w) usable sound separate other went
      rw [p.records_eq clean] at inserted
      have each := inserted.length_eq
      rw [List.length_mapIdx] at each
      dsimp only at store
      rw [← store] at grown
      exact ⟨rows, n, u, inserted, each, store.symm, grown,
        fun r a b => currentNext_afterKeys sound grown.sequences⟩

def newParts : List String :=
  ["Value;Amount", "C;5", "D;7"]

theorem importLines_inserts_each_part :
    ∃ rows n u, Inserted "Part" partTemplate (.standard (Calendar.Date.midnight ⟨2026, 1, 2⟩))
        (read [some "Value", some "Amount"]) (keyNumber? Store.partStore "Part") 0
        (begun partWorkspace) [⟨2, ["C", "5"]⟩, ⟨3, ["D", "7"]⟩] rows n u ∧ rows.length = 2 ∧
      Grown Store.partStore "Part" n rows
        ((importLines partTemplate (.standard (Calendar.Date.midnight ⟨2026, 1, 2⟩)) .insert
          newParts).runOn partWorkspace).2.store := by
  have planned : plan partTemplate.header newParts =
      .ok ⟨read [some "Value", some "Amount"], 2, ["C;5", "D;7"], .semicolon⟩ := by decide +kernel
  have named : ((tableOf partTemplate).runOn partWorkspace).1 = .ok "Part" := by decide +kernel
  have succeeded : ((importLines partTemplate (.standard (Calendar.Date.midnight ⟨2026, 1, 2⟩))
      .insert newParts).runOn partWorkspace).1.toBool = true := by decide +kernel
  rcases ran : (importLines partTemplate (.standard (Calendar.Date.midnight ⟨2026, 1, 2⟩)) .insert
    newParts).runOn partWorkspace with ⟨e | report, w'⟩
  · rw [ran] at succeeded
    cases succeeded
  · obtain ⟨rows, n, u, inserted, each, _, grown, _⟩ := importLines_inserts_each_line
      (show partWorkspace.store.WellFormed from Store.wellFormed_partStore) named planned
      (by decide +kernel) (by decide +kernel) (by decide +kernel) ran
    exact ⟨rows, n, u, inserted, each, grown⟩

/-- A table of parts whose id is the number of a part, and not its key. -/
def numberedParts : Table :=
  let declared := schema "Part"
    [integers "No" .free, texts "Name" 60 .free, integers "AD_Client_ID" .required,
      integers "AD_Org_ID" .required, moments "Created", integers "CreatedBy" .free,
      moments "Updated", integers "UpdatedBy" .free, texts "UUID" 36 .free]
  { declared with
    columns := declared.columns.map fun c =>
      { c with duty := if c.name = "No" then .key else if c.name = "Part_ID" then .free else c.duty } }

def numberedWorkspace : Workspace :=
  ⟨Store.describing numberedParts [("Part_ID", 13), ("No", 11), ("Name", 10)] 3 1 none, .empty,
    fun _ => "", 0, false, none⟩

/-- A part without a number: null is no value that the id can have, so the row has the next id under the
number, which is no column of the system. -/
theorem null_under_id_becomes_next_id :
    ((Resolve.resolve "Part" (Field.read (some "No") 1) (some "") 2).runOn
        (begun numberedWorkspace)).1 = .ok .null ∧
      numberedParts.slot? "No" = some .id ∧
      "No" ∉ (systemDefaults "Part" partTemplate
        (.standard (Calendar.Date.midnight ⟨2026, 1, 2⟩)) .null true "").names ∧
      ((rowsOf ((importLines partTemplate (.standard (Calendar.Date.midnight ⟨2026, 1, 2⟩)) .insert
          ["No;Name", ";Axle"]).runOn numberedWorkspace).2.store "Part").map fun r =>
        (r.read .id, (Store.bind .null).stored .number)) = [(.int 1, .null)] := by
  refine ⟨?_, ?_, ?_, ?_⟩ <;> decide +kernel

end RowLoader.Run
