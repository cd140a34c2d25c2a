import RowLoader.Proofs.WellFormed
import RowLoader.Proofs.Work
import RowLoader.Resolve

/-!
Resolving a record. Each cell is resolved for itself: what was asked of the dictionary before changes
no answer, so the value of a cell depends on the store and on what was known when the record began.
-/

namespace RowLoader

open RowLoader.Header RowLoader.Store

namespace Dictionary

/-- A memory that knows more than another one, and that from a store: whatever it knows besides is what
the store says. -/
structure Recall.Extends (s : Store) (m m' : Recall) : Prop where
  found : ∀ key, m'.found.lookup key = m.found.lookup key ∨
    m.found.lookup key = none ∧ m'.found.lookup key = some ((find? s key.1 key.2).map (·.id))
  read : ∀ id, m'.reading? id = m.reading? id ∨
    m.reading? id = none ∧
      ∃ r ∈ rowsOf s columnTable, r.id = id ∧ m'.reading? id = some (infoOf s r)

theorem Recall.Extends.refl (s : Store) (m : Recall) : m.Extends s m :=
  ⟨fun _ => .inl rfl, fun _ => .inl rfl⟩

theorem Recall.Extends.trans {s : Store} {a b c : Recall} (first : a.Extends s b)
    (second : b.Extends s c) : a.Extends s c := by
  constructor
  · intro key
    rcases second.found key with same | ⟨unknown, new⟩
    · rw [same]
      exact first.found key
    · rcases first.found key with before | ⟨_, known⟩
      · exact .inr ⟨before ▸ unknown, new⟩
      · rw [known] at unknown
        cases unknown
  · intro id
    rcases second.read id with same | ⟨unknown, new⟩
    · rw [same]
      exact first.read id
    · rcases first.read id with before | ⟨_, r, _, _, known⟩
      · exact .inr ⟨before ▸ unknown, new⟩
      · rw [known] at unknown
        cases unknown

theorem reading?_note (m : Recall) (id other : Int) (info : ColumnInfo) :
    (m.note id info).reading? other =
      if other = id then some ((m.reading? id).getD info) else m.reading? other := by
  unfold Recall.note
  by_cases known : (m.reading? id).isSome = true
  · rw [if_pos known]
    obtain ⟨said, found⟩ := Option.isSome_iff_exists.mp known
    by_cases same : other = id
    · rw [if_pos same, same, found]
      rfl
    · rw [if_neg same]
  · rw [if_neg known]
    have unknown : m.reading? id = none := by simpa using known
    unfold Recall.reading? at unknown ⊢
    by_cases same : other = id
    · rw [if_pos same, same, unknown, List.lookup_cons_self]
      rfl
    · rw [if_neg same, List.lookup_cons, beq_false_of_ne same]

theorem extends_note {s : Store} {r : Row} (member : r ∈ rowsOf s columnTable) (m : Recall) :
    m.Extends s (m.note r.id (infoOf s r)) := by
  constructor
  · intro key
    unfold Recall.note
    split <;> exact .inl rfl
  · intro id
    rw [reading?_note]
    by_cases same : id = r.id
    · subst same
      rw [if_pos rfl]
      cases known : m.reading? r.id with
      | some info => exact .inl rfl
      | none => exact .inr ⟨rfl, r, member, rfl, rfl⟩
    · rw [if_neg same]
      exact .inl rfl

theorem extends_found {s : Store} {m : Recall} {key : ColumnKey} (unknown : m.found.lookup key = none) :
    m.Extends s { m with found := (key, (find? s key.1 key.2).map (·.id)) :: m.found } := by
  refine ⟨?_, fun _ => .inl rfl⟩
  intro other
  by_cases same : other = key
  · subst same
    exact .inr ⟨unknown, List.lookup_cons_self⟩
  · refine .inl ?_
    rw [List.lookup_cons, beq_false_of_ne same]

theorem locate_fst (s : Store) (m : Recall) (table column : String) :
    (locate s m table column).1 = (m.found.lookup (columnKey table column)).getD
      ((find? s (columnKey table column).1 (columnKey table column).2).map (·.id)) := by
  unfold locate
  dsimp only
  cases m.found.lookup (columnKey table column) with
  | some answer => rfl
  | none =>
      cases find? s (columnKey table column).1 (columnKey table column).2 with
      | none => rfl
      | some r => rfl

theorem extends_locate (s : Store) (m : Recall) (table column : String) :
    m.Extends s (locate s m table column).2 := by
  unfold locate
  dsimp only
  cases unknown : m.found.lookup (columnKey table column) with
  | some answer => exact .refl s m
  | none =>
      have remembered := extends_found (s := s) unknown
      cases hr : find? s (columnKey table column).1 (columnKey table column).2 with
      | none =>
          rw [hr] at remembered
          exact remembered
      | some r =>
          rw [hr] at remembered
          exact remembered.trans (extends_note (List.mem_of_find?_eq_some hr) _)

theorem locate_of_extends {s : Store} {m m' : Recall} (more : m.Extends s m')
    (table column : String) : (locate s m' table column).1 = (locate s m table column).1 := by
  rw [locate_fst, locate_fst]
  rcases more.found (columnKey table column) with same | ⟨unknown, known⟩
  · rw [same]
  · rw [unknown, known]
    rfl

theorem find?_congr {s s' : Store} (tables : s'.table? tableTable = s.table? tableTable)
    (columns : s'.table? columnTable = s.table? columnTable) (table column : String) :
    find? s' table column = find? s table column := by
  unfold find? belongsTo textOf intOf? cellOf rowsOf
  rw [tables, columns]

theorem locate_congr {s s' : Store} (tables : s'.table? tableTable = s.table? tableTable)
    (columns : s'.table? columnTable = s.table? columnTable) (m : Recall) (table column : String) :
    (locate s' m table column).1 = (locate s m table column).1 := by
  rw [locate_fst, locate_fst, find?_congr tables columns]

theorem infoOf_congr {s s' : Store} (columns : s'.table? columnTable = s.table? columnTable)
    (r : Row) : infoOf s' r = infoOf s r := by
  unfold infoOf cellOf
  rw [columns]

theorem rowsOf_congr {s s' : Store} {table : String} (same : s'.table? table = s.table? table) :
    rowsOf s' table = rowsOf s table := by
  unfold rowsOf
  rw [same]

theorem Recall.Extends.congr {s s' : Store} (tables : s'.table? tableTable = s.table? tableTable)
    (columns : s'.table? columnTable = s.table? columnTable) {m m' : Recall}
    (more : m.Extends s m') : m.Extends s' m' := by
  constructor
  · intro key
    rw [find?_congr tables columns]
    exact more.found key
  · intro id
    rw [rowsOf_congr columns]
    simp only [infoOf_congr columns]
    exact more.read id

theorem consult_fst (s : Store) (m : Recall) (id : Int) :
    (consult s m id).1 =
      (m.reading? id).or (((rowsOf s columnTable).find? (fun r => r.id = id)).map (infoOf s)) := by
  unfold consult
  cases m.reading? id with
  | some info => rfl
  | none =>
      cases (rowsOf s columnTable).find? (fun r => r.id = id) with
      | some r => rfl
      | none => rfl

theorem consult_congr {s s' : Store} (columns : s'.table? columnTable = s.table? columnTable)
    (m : Recall) (id : Int) : (consult s' m id).1 = (consult s m id).1 := by
  rw [consult_fst, consult_fst, rowsOf_congr columns, funext (infoOf_congr columns)]

theorem extends_consult (s : Store) (m : Recall) (id : Int) : m.Extends s (consult s m id).2 := by
  unfold consult
  cases m.reading? id with
  | some info => exact .refl s m
  | none =>
      cases hr : (rowsOf s columnTable).find? (fun r => r.id = id) with
      | none => exact .refl s m
      | some r =>
          have named : r.id = id := by simpa using List.find?_some hr
          subst named
          exact extends_note (List.mem_of_find?_eq_some hr) m

theorem find?_rowsOf {s : Store} (sound : s.WellFormed) {table : String} {r : Row}
    (member : r ∈ rowsOf s table) :
    (rowsOf s table).find? (fun q => q.id = r.id) = some r := by
  unfold rowsOf at member ⊢
  cases found : s.table? table with
  | none =>
      rw [found] at member
      cases member
  | some t =>
      rw [found] at member
      have filled := sound.tables t (table?_some found).1
      cases hq : t.rows.find? (fun q => q.id = r.id) with
      | none =>
          have absent := List.find?_eq_none.mp hq r member
          simp at absent
      | some q =>
          have named : q.id = r.id := by simpa using List.find?_some hq
          rw [filled.eq_of_id (List.mem_of_find?_eq_some hq) member named] at hq
          exact hq

theorem consult_of_extends {s : Store} (sound : s.WellFormed) {m m' : Recall}
    (more : m.Extends s m') (id : Int) : (consult s m' id).1 = (consult s m id).1 := by
  rw [consult_fst, consult_fst]
  rcases more.read id with same | ⟨unknown, r, member, rfl, known⟩
  · rw [same]
  · rw [unknown, known, find?_rowsOf sound member]
    rfl

theorem ask_fst {s : Store} (sound : s.WellFormed) (m : Recall) (table column : String) :
    (ask s m table column).1 =
      (locate s m table column).1.bind fun id => (consult s m id).1 := by
  have more := extends_locate s m table column
  unfold ask
  generalize locate s m table column = answer at more ⊢
  obtain ⟨_ | id, m'⟩ := answer
  · rfl
  · exact consult_of_extends sound more id

theorem extends_ask (s : Store) (m : Recall) (table column : String) :
    m.Extends s (ask s m table column).2 := by
  have more := extends_locate s m table column
  unfold ask
  generalize locate s m table column = answer at more ⊢
  obtain ⟨_ | id, m'⟩ := answer
  · exact more
  · exact more.trans (extends_consult s m' id)

/-- What was asked before changes no answer. -/
theorem ask_of_extends {s : Store} (sound : s.WellFormed) {m m' : Recall} (more : m.Extends s m')
    (table column : String) : (ask s m' table column).1 = (ask s m table column).1 := by
  rw [ask_fst sound, ask_fst sound, locate_of_extends more]
  congr 1
  funext id
  exact consult_of_extends sound more id

end Dictionary

namespace Resolve

open RowLoader.Dictionary

/-- One workspace comes from another by asking: it may remember more and have a transaction open. -/
structure Asked (w w' : Workspace) : Prop where
  more : w.memo.Extends w.store w'.memo
  same : ∃ opened, w' = { w with memo := w'.memo, isOpen := opened }

theorem Asked.store {w w' : Workspace} (asked : Asked w w') : w'.store = w.store := by
  obtain ⟨_, opened, same⟩ := asked
  rw [same]

theorem Asked.breakdown {w w' : Workspace} (asked : Asked w w') : w'.breakdown = w.breakdown := by
  obtain ⟨_, opened, same⟩ := asked
  rw [same]

theorem Asked.refl (w : Workspace) : Asked w w :=
  ⟨.refl w.store w.memo, w.isOpen, rfl⟩

theorem Asked.trans {a b c : Workspace} (first : Asked a b) (second : Asked b c) : Asked a c := by
  obtain ⟨learned, opened, same⟩ := second
  rw [first.store] at learned
  refine ⟨first.more.trans learned, opened, ?_⟩
  obtain ⟨_, before, came⟩ := first
  rw [same, came]

def valueFor (s : Store) (info : Option ColumnInfo) (table : String) (f : Field) (raw : String)
    (row : Int) : Except Failure Value :=
  let kind := kindOf info
  if kind.isNumeric && isDigits raw then literal kind raw
  else if f.lookup.isSome then
    match lookupNames f with
    | .error e => .error (.fault e)
    | .ok names => lookupValue s names kind f raw row
  else cast info table f raw row

/-- The value of a cell by a store and what is remembered of columns. -/
def resolved (s : Store) (m : Recall) (table : String) (f : Field) (raw : Option String)
    (row : Int) : Except Failure Value :=
  if isNull raw then .ok .null
  else valueFor s (ask s m table f.target).1 table f (raw.getD "") row

theorem resolved_of_extends {s : Store} (sound : s.WellFormed) {m m' : Recall}
    (more : m.Extends s m') (table : String) (f : Field) (raw : Option String) (row : Int) :
    resolved s m' table f raw row = resolved s m table f raw row := by
  unfold resolved
  rw [ask_of_extends sound more]

theorem runOn_columnInfo {w : Workspace} (usable : w.breakdown = none) (table column : String) :
    ∃ opened, (Work.columnInfo table column).runOn w =
      (.ok (ask w.store w.memo table column).1,
        { w with memo := (ask w.store w.memo table column).2, isOpen := opened }) := by
  unfold Work.columnInfo
  rw [Work.runOn_bind_of_ok (Work.runOn_get w)]
  cases w.memo.knowsInfo table column with
  | true => exact ⟨w.isOpen, rfl⟩
  | false =>
      refine ⟨true, ?_⟩
      change (Work.enter >>= _).runOn w = _
      rw [Work.runOn_bind_of_ok (Work.runOn_enter usable)]
      rfl

theorem runOn_valueOf {w : Workspace} (usable : w.breakdown = none) (info : Option ColumnInfo)
    (table : String) (f : Field) (raw : String) (row : Int) :
    ∃ opened, (valueOf info table f raw row).runOn w =
      (valueFor w.store info table f raw row, { w with isOpen := opened }) := by
  unfold valueOf valueFor
  dsimp only
  split
  · exact ⟨w.isOpen, Work.runOn_ofExcept _ w⟩
  · split
    · cases lookupNames f with
      | error e =>
          exact ⟨w.isOpen, Work.runOn_bind_of_error (Work.runOn_ofFault_error e w) _⟩
      | ok names =>
          refine ⟨true, ?_⟩
          rw [Work.runOn_bind_of_ok (Work.runOn_ofFault_ok names w),
            Work.runOn_bind_of_ok (Work.runOn_store usable)]
          exact Work.runOn_ofExcept _ _
    · exact ⟨w.isOpen, Work.runOn_ofExcept _ w⟩

/-- A cell is resolved by the store and what is remembered, and nothing but asking happens. -/
theorem runOn_resolve {w : Workspace} (usable : w.breakdown = none) (table : String) (f : Field)
    (raw : Option String) (row : Int) :
    ∃ w', (resolve table f raw row).runOn w = (resolved w.store w.memo table f raw row, w') ∧
      Asked w w' := by
  unfold resolve resolved
  split
  · exact ⟨w, rfl, .refl w⟩
  · obtain ⟨opened, asked⟩ := runOn_columnInfo usable table f.target
    rw [Work.runOn_bind_of_ok asked]
    obtain ⟨later, valued⟩ := runOn_valueOf (w := { w with
      memo := (ask w.store w.memo table f.target).2, isOpen := opened }) usable
      (ask w.store w.memo table f.target).1 table f (raw.getD "") row
    exact ⟨_, valued, extends_ask w.store w.memo table f.target, later, rfl⟩

theorem reads_resolve (table : String) (f : Field) (raw : Option String) (row : Int) :
    Work.Reads (resolve table f raw row) := by
  unfold resolve
  split
  · exact Work.reads_pure _
  · refine (Work.reads_columnInfo table f.target).bind ?_
    intro info
    unfold valueOf
    dsimp only
    split
    · exact Work.reads_ofExcept _
    · split
      · exact (Work.reads_ofFault _).bind fun names => Work.reads_store.bind fun s =>
          Work.reads_ofExcept _
      · exact Work.reads_ofExcept _

def resolveEach (table : String) (record : Source.Record) : List Field → Work (List Value)
  | [] => return []
  | f :: rest => do
    let raw ← Work.ofExcept (record.cell f)
    let v ← resolve table f raw record.row
    let others ← resolveEach table record rest
    return v :: others

def enterValues (columns : Columns) (pairs : List (Field × Value)) : Columns :=
  pairs.foldl (fun columns p => columns.put p.1.target p.2) columns

theorem runOn_resolveRow (table : String) (record : Source.Record) (columns : Columns)
    (fields : List Field) (w : Workspace) :
    (resolveRow table record columns fields).runOn w =
      (do
        let values ← resolveEach table record fields
        return enterValues columns (fields.zip values) : Work Columns).runOn w := by
  induction fields generalizing columns w with
  | nil => rfl
  | cons f rest ih =>
      unfold resolveRow resolveEach
      simp only [bind_assoc, pure_bind]
      rw [Work.runOn_bind, Work.runOn_bind]
      rcases (Work.ofExcept (record.cell f)).runOn w with ⟨e | raw, w₁⟩
      · rfl
      · dsimp only
        rw [Work.runOn_bind, Work.runOn_bind]
        rcases (resolve table f raw record.row).runOn w₁ with ⟨e | v, w₂⟩
        · rfl
        · exact ih (columns.put f.target v) w₂

theorem reads_resolveEach (table : String) (record : Source.Record) (fields : List Field) :
    Work.Reads (resolveEach table record fields) := by
  induction fields with
  | nil => exact Work.reads_pure _
  | cons f rest ih =>
      exact (Work.reads_ofExcept _).bind fun raw => (reads_resolve table f raw record.row).bind
        fun v => ih.bind fun others => Work.reads_pure _

theorem length_of_resolveEach {table : String} {record : Source.Record} {fields : List Field}
    {w w' : Workspace} {values : List Value}
    (h : (resolveEach table record fields).runOn w = (.ok values, w')) :
    values.length = fields.length := by
  induction fields generalizing w values with
  | nil =>
      cases h
      rfl
  | cons f rest ih =>
      unfold resolveEach at h
      obtain ⟨raw, _, _, h⟩ := Work.bind_ok h
      obtain ⟨v, _, _, h⟩ := Work.bind_ok h
      obtain ⟨others, _, went, h⟩ := Work.bind_ok h
      cases h
      exact congrArg (· + 1) (ih went)

/-- Every field with its value: the value of the field's own cell, by the store and by what was known
before the record. -/
theorem resolveEach_ok {table : String} {record : Source.Record} {fields : List Field}
    {w w' : Workspace} {values : List Value} (usable : w.breakdown = none)
    (sound : w.store.WellFormed)
    (h : (resolveEach table record fields).runOn w = (.ok values, w')) :
    Asked w w' ∧ List.Forall₂ (fun f v => ∃ raw, record.cell f = .ok raw ∧
      resolved w.store w.memo table f raw record.row = .ok v) fields values := by
  induction fields generalizing w values with
  | nil =>
      cases h
      exact ⟨.refl _, .nil⟩
  | cons f rest ih =>
      unfold resolveEach at h
      obtain ⟨raw, mid, read, h⟩ := Work.bind_ok h
      obtain ⟨cell, kept⟩ := Work.ofExcept_ok read
      obtain ⟨v, reached, found, h⟩ := Work.bind_ok h
      obtain ⟨others, last, went, h⟩ := Work.bind_ok h
      cases h
      obtain ⟨w₁, ran, asked⟩ := runOn_resolve usable table f raw record.row
      rw [kept, ran] at found
      have value := congrArg Prod.fst found
      have left := congrArg Prod.snd found
      dsimp only at value left
      rw [← left] at went
      obtain ⟨later, each⟩ := ih (asked.breakdown.trans usable) (asked.store ▸ sound) went
      refine ⟨asked.trans later, .cons ⟨raw, cell, value⟩ ?_⟩
      refine each.imp ?_
      rintro g u ⟨cell, read, same⟩
      rw [asked.store, resolved_of_extends sound asked.more] at same
      exact ⟨cell, read, same⟩

end Resolve

end RowLoader
