import RowLoader.Proofs.Completion
import RowLoader.Proofs.Execution
import RowLoader.Proofs.Keys
import RowLoader.Proofs.Names
import RowLoader.Proofs.Preparation

/-!
Inserting one record. Where the targets of the header differ, the new row holds in each of them what
the cell of its field is resolved to, or the default of a system column where that is null; besides
the row only the sequence of the table changes.
-/

namespace RowLoader

open RowLoader.Header RowLoader.Dictionary RowLoader.Store RowLoader.Resolve RowLoader.Complete
open RowLoader.Text RowLoader.Identifier

namespace Resolve

theorem put_of_not_mem {columns : Columns} {name : String} (fresh : name ∉ columns.names) (v : Value) :
    columns.put name v = columns ++ [(name, v)] := by
  induction columns with
  | nil => rfl
  | cons c rest ih =>
      have other : c.1 ≠ name := fun same => fresh (same ▸ List.mem_cons_self)
      have later : name ∉ Columns.names rest := fun inside => fresh (List.mem_cons_of_mem _ inside)
      rw [Columns.put, if_neg other, ih later]
      rfl

theorem enterValues_distinct {columns : Columns} {pairs : List (Field × Value)}
    (distinct : (columns.names ++ pairs.map (·.1.target)).Nodup) :
    enterValues columns pairs = columns ++ pairs.map fun p => (p.1.target, p.2) := by
  induction pairs generalizing columns with
  | nil => exact (List.append_nil columns).symm
  | cons p rest ih =>
      have fresh : p.1.target ∉ columns.names := by
        intro inside
        exact List.disjoint_of_nodup_append distinct inside (List.mem_cons_self ..)
      have later : enterValues columns (p :: rest) =
          enterValues (columns.put p.1.target p.2) rest := rfl
      rw [later, put_of_not_mem fresh, ih]
      · rw [List.append_assoc]
        rfl
      · simpa [Columns.names] using distinct

end Resolve

namespace Write

/-- Fields that an insertion can tell apart: no two targets agree in name, none means the id in every
table, and each is trimmed. -/
structure Separate (fields : List Field) : Prop where
  distinct : fields.Pairwise fun f g => sameName f.target g.target = false
  unaliased : ∀ f ∈ fields, isIdName f.target = false
  trimmed : ∀ f ∈ fields, bare f.target = f.target

def defaultNames : List String :=
  [clientColumn, orgColumn, activeColumn, "Created", "CreatedBy", "Updated", "UpdatedBy",
    uniqueIdColumn]

theorem names_systemDefaults {table : String} {template : Template} {context : Context}
    {key : Value} {listed : Bool} {id n : String}
    (member : n ∈ (systemDefaults table template context key listed id).names) :
    n = Complete.keyColumn table ∨ n ∈ defaultNames := by
  cases listed <;> simp [systemDefaults, Columns.names] at member <;>
    simp [defaultNames] <;> tauto

theorem bare_keyColumn (table : String) :
    bare (Complete.keyColumn table) = Complete.keyColumn table := by
  refine bare_of_last ?_
  have parts : (Complete.keyColumn table).toList = table.toList ++ ['_', 'I', 'D'] := by
    simp [Complete.keyColumn]
  rw [parts]
  simp

theorem isIdName_keyColumn (table : String) : isIdName (Complete.keyColumn table) = false := by
  have ending : (asciiUpper (Complete.keyColumn table)).toList.reverse.take 3 = ['D', 'I', '_'] := by
    simp [asciiUpper, Complete.keyColumn]
  have other : ∀ n ∈ idNames, (asciiUpper n).toList.reverse.take 3 ≠ ['D', 'I', '_'] := by
    decide +kernel
  unfold isIdName
  rw [List.any_eq_false]
  intro n member same
  apply other n member
  rw [sameName_iff.mp same]
  exact ending

theorem bare_defaultNames : ∀ n ∈ defaultNames, bare n = n ∧ isIdName n = false := by
  decide +kernel

theorem checked_ok {name : String} {place : Option Place} {s : String}
    (h : checked (some name) place = .ok s) : isPlain name = true := by
  unfold checked at h
  dsimp only at h
  split at h
  · assumption
  · cases h

theorem checkNames_ok {names : List String} (h : Statement.checkNames names = .ok ()) :
    ∀ n ∈ names, isPlain n = true := by
  induction names with
  | nil => exact fun n member => absurd member List.not_mem_nil
  | cons name rest ih =>
      obtain ⟨_, plain, later⟩ := except_bind_ok h
      intro n member
      rcases List.mem_cons.mp member with rfl | inside
      · exact checked_ok plain
      · exact ih later n inside

theorem makeInsert_ok {table : String} {columns : Columns} {statement : Statement}
    (h : Statement.makeInsert table columns = .ok statement) :
    (∀ n ∈ columns.names, isPlain n = true) ∧ isPlain table = true ∧
      statement = .insert table columns := by
  have shape := Statement.makeInsert_eq h
  obtain ⟨_, names, h⟩ := except_bind_ok h
  obtain ⟨_, plain, h⟩ := except_bind_ok h
  exact ⟨checkNames_ok names, checked_ok plain, shape⟩

theorem insert_ok {table : String} {template : Template} {context : Context} {columns : Columns}
    {row : Int} {w w' : Workspace} {outcome : Outcome}
    (h : (insert table (some template) context columns row).runOn w = (.ok outcome, w')) :
    ∃ completed mid affected,
      (complete table (some template) context columns).runOn w = (.ok completed, mid) ∧
      (∀ n ∈ completed.names, isPlain n = true) ∧ isPlain table = true ∧
      Store.execute mid.store (.insert table completed) = .ok (w'.store, affected) ∧
      w' = { mid with store := w'.store, isOpen := true } ∧
      outcome = ⟨row, .insert, affected, ""⟩ := by
  unfold insert at h
  obtain ⟨completed, mid, filled, h⟩ := Work.bind_ok h
  obtain ⟨statement, made, built, ended⟩ := Work.bind_ok h
  obtain ⟨accepted, rfl⟩ := Work.ofFault_ok built
  obtain ⟨names, plain, rfl⟩ := makeInsert_ok accepted
  obtain ⟨affected, last, ran, done⟩ := Work.bind_ok ended
  obtain ⟨_, s, executed, rfl⟩ := Work.execute_ok ran
  obtain ⟨rfl, rfl⟩ := Work.pure_ok done
  exact ⟨completed, made, affected, filled, names, plain, executed, rfl, rfl⟩

def valued (fields : List Field) (values : List Value) : Columns :=
  (fields.zip values).map fun p => (p.1.target, p.2)

theorem names_valued {fields : List Field} {values : List Value}
    (each : values.length = fields.length) :
    (valued fields values).names = fields.map Field.target := by
  unfold valued Columns.names
  rw [List.map_map]
  change (fields.zip values).map (Field.target ∘ Prod.fst) = _
  rw [← List.map_map, List.map_fst_zip each.ge]

theorem Separate.distinct_valued {fields : List Field} (separate : Separate fields)
    {values : List Value} (each : values.length = fields.length) :
    (valued fields values).names.Pairwise fun m n => sameName m n = false := by
  rw [names_valued each]
  exact List.pairwise_map.mpr separate.distinct

theorem Separate.named_valued {fields : List Field} (separate : Separate fields)
    {values : List Value} (each : values.length = fields.length) :
    ∀ n ∈ (valued fields values).names, bare n = n ∧ isIdName n = false := by
  intro n member
  rw [names_valued each] at member
  obtain ⟨f, inside, rfl⟩ := List.mem_map.mp member
  exact ⟨separate.trimmed f inside, separate.unaliased f inside⟩

/-- Where the targets differ, a record is the list of its values. -/
theorem Separate.enterValues_eq {fields : List Field} (separate : Separate fields)
    {values : List Value} (each : values.length = fields.length) :
    enterValues [] (fields.zip values) = valued fields values := by
  have apart : (valued fields values).names.Nodup := by
    refine (separate.distinct_valued each).imp ?_
    rintro m n differ rfl
    rw [sameName_self] at differ
    cases differ
  unfold valued Columns.names at apart
  rw [List.map_map] at apart
  exact enterValues_distinct apart

/-- A new row of a table has what is stored for the values of a record, and for defaults where these are
null or missing. -/
structure Filled (t : Table) (columns defaults : Columns) (r : Row) : Prop where
  cells : ∀ c ∈ columns, t.Gives r c.1 (if c.2 = .null then defaultFor defaults c.1 else c.2)
  defaults : ∀ n ∈ defaults.names, (∀ c ∈ columns, upper c.1 ≠ upper n) →
    t.Gives r n (defaultFor defaults n)

theorem apart_of_plain {columns : Columns} (plain : ∀ n ∈ columns.names, isPlain n = true)
    (distinct : columns.names.Pairwise fun m n => sameName m n = false) : Apart columns := by
  refine distinct.imp_of_mem ?_
  intro m n hm hn differ same
  have agree := (sameName_iff_upper (isAscii_of_plain (plain m hm))
    (isAscii_of_plain (plain n hn))).mpr same
  rw [differ] at agree
  cases agree

theorem distinct_of_apart {columns : Columns} (plain : ∀ n ∈ columns.names, isPlain n = true)
    (apart : Apart columns) : columns.names.Pairwise fun m n => sameName m n = false := by
  refine List.Pairwise.imp_of_mem ?_ apart
  intro m n hm hn differ
  refine Bool.eq_false_iff.mpr ?_
  intro agree
  exact differ ((sameName_iff_upper (isAscii_of_plain (plain m hm))
    (isAscii_of_plain (plain n hn))).mp agree)

theorem isAscii_systemDefaults {table : String} (plain : isPlain table = true) {template : Template}
    {context : Context} {key : Value} {listed : Bool} {id n : String}
    (member : n ∈ (systemDefaults table template context key listed id).names) : IsAscii n := by
  rcases names_systemDefaults member with rfl | inside
  · exact (isAscii_of_plain plain).append (by decide +kernel)
  · have each : ∀ m ∈ defaultNames, IsAscii m := by decide +kernel
    exact each n inside

/-- A row that has every value of a completed record has those of the record and of the defaults. -/
theorem filled_of_gives {t : Table} {columns defaults : Columns} {r : Row} (apart : Apart columns)
    (given : ∀ d ∈ defaults, d.2 ≠ .null) (ascii : ∀ n ∈ defaults.names, IsAscii n)
    (plain : ∀ n ∈ (fill columns defaults).names, isPlain n = true)
    (gives : ∀ c ∈ fill columns defaults, t.Gives r c.1 c.2) : Filled t columns defaults r := by
  have completed := apart.fill defaults
  have shown : ∀ n ∈ (fill columns defaults).names,
      t.Gives r n (valueIn (fill columns defaults) n) := by
    intro n member
    obtain ⟨c, inside, rfl⟩ := List.mem_map.mp member
    rw [completed.valueIn_of_mem inside rfl]
    exact gives c inside
  obtain ⟨added, names, _⟩ := names_fill columns defaults
  constructor
  · intro c member
    have kept : c.1 ∈ (fill columns defaults).names := by
      rw [names]
      exact List.mem_append_left _ (List.mem_map.mpr ⟨c, member, rfl⟩)
    have held := shown c.1 kept
    rw [apart.valueIn_fill given, apart.valueIn_of_mem member rfl] at held
    exact held
  · intro n member absent
    have missing : valueIn columns n = .null :=
      apart.valueIn_eq_null.mpr fun c inside same => absurd same (absent c inside)
    have value := apart.valueIn_fill given n
    rw [if_pos missing] at value
    obtain ⟨m, inside, same⟩ := exists_name_of_valueIn (value ▸ defaultFor_ne_null given member)
    have agree := (sameName_iff_upper (isAscii_of_plain (plain m inside)) (ascii n member)).mpr same
    obtain ⟨slot, leads, held⟩ := shown m inside
    rw [completed.valueIn_congr same, value] at held
    exact ⟨slot, (slot?_of_sameName agree t).symm.trans leads, held⟩

theorem draws_keeps {s after : Store} (sound : s.WellFormed) {table : String} {columns : Columns}
    {key : Value} (drawn : Draws s table columns key after) :
    after.WellFormed ∧ key ≠ .null := by
  unfold Draws at drawn
  split at drawn
  · exact ⟨nextKey_wellFormed sound drawn, nextKey_ne_null sound drawn⟩
  · obtain ⟨rfl, rfl⟩ := drawn
    exact ⟨sound, nofun⟩

theorem named_fill {columns : Columns} (named : ∀ n ∈ columns.names, bare n = n ∧ isIdName n = false)
    {table : String} {template : Template} {context : Context} {key : Value} {listed : Bool}
    {id n : String}
    (member : n ∈ (fill columns (systemDefaults table template context key listed id)).names) :
    bare n = n ∧ isIdName n = false := by
  obtain ⟨added, names, within⟩ :=
    names_fill columns (systemDefaults table template context key listed id)
  rw [names] at member
  rcases List.mem_append.mp member with inside | default
  · exact named n inside
  · rcases names_systemDefaults (within n default) with rfl | known
    · exact ⟨bare_keyColumn table, isIdName_keyColumn table⟩
    · exact bare_defaultNames n known

/-- One insertion adds to the table one row that holds the record and the defaults. The key is drawn
from the sequence where the record has none, and else nothing but the table changes. -/
theorem insert_fills {table : String} {template : Template} {context : Context} {columns : Columns}
    {row : Int} {u u' : Workspace} {outcome : Outcome} (sound : u.store.WellFormed)
    (distinct : columns.names.Pairwise fun m n => sameName m n = false)
    (named : ∀ n ∈ columns.names, bare n = n ∧ isIdName n = false)
    (other : sameName sequenceTable (bare table) = false)
    (h : (insert table (some template) context columns row).runOn u = (.ok outcome, u')) :
    Apart columns ∧ ∃ key mid t r, Draws u.store table columns key mid ∧
      u.store.table? (bare table) = some t ∧
      u'.store = mid.replaceTable { t with rows := insertRow r t.rows } ∧
      u'.store.WellFormed ∧ u'.breakdown = u.breakdown ∧
      Filled t columns (systemDefaults table template context key
        (locate u.store u.memo table activeColumn).1.isSome (u.uniqueId u.drawn)) r := by
  obtain ⟨completed, reached, affected, filled, plain, plainTable, executed, left, _⟩ := insert_ok h
  obtain ⟨key, mid, rfl, drawn, same⟩ := complete_ok filled
  obtain ⟨added, names, _⟩ := names_fill columns (systemDefaults table template context key
    (locate mid u.memo table activeColumn).1.isSome (u.uniqueId u.drawn))
  have apart : Apart columns := by
    refine apart_of_plain ?_ distinct
    intro n member
    refine plain n ?_
    rw [names]
    exact List.mem_append_left _ member
  obtain ⟨solid, keyed⟩ := draws_keeps sound drawn
  have listed := locate_congr (drawn.table? (by decide +kernel))
    (drawn.table? (by decide +kernel)) u.memo table activeColumn
  rw [same] at executed
  obtain ⟨t, r, found, stored, gives⟩ := execute_insert_gives solid
    (distinct_of_apart plain (apart.fill _)) (fun n => named_fill named) executed
  rw [drawn.table? other] at found
  refine ⟨apart, key, mid, t, r, drawn, found, stored, execute_wellFormed solid executed, ?_, ?_⟩
  · rw [left, same]
  · rw [← listed]
    exact filled_of_gives apart (systemDefaults_given keyed _ _)
      (fun n => isAscii_systemDefaults plainTable) plain gives

end Write

end RowLoader
