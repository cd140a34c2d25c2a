import RowLoader.Proofs.WellFormed

/-!
Keys that are handed out. A sequence steps on with every key, its row stays the row of its table, and
nothing else in the store changes; so the keys of a table are the successive values of its sequence.
-/

namespace RowLoader.Dictionary

open RowLoader.Store RowLoader.Text

theorem table?_dictionary {s : Store} (sound : s.WellFormed) {d : Table} (declared : d ∈ emptyTables) :
    ∃ t ∈ s.tables, s.table? d.name = some t ∧ t.name = d.name ∧ t.columns = d.columns := by
  obtain ⟨t, member, named, columns⟩ := sound.dictionary d declared
  refine ⟨t, member, sound.table?_of_mem member ?_, named, columns⟩
  rw [named]
  exact sameName_self d.name

theorem slot?_congr {t d : Table} (columns : t.columns = d.columns) (name : String) :
    t.slot? name = d.slot? name := by
  unfold Table.slot?
  rw [columns]

def nextColumn : Nat := 3

/-- A table with the columns that a table of sequences is declared with. -/
structure Sequences (q : Table) : Prop where
  sound : q.WellFormed
  named : q.name = sequenceTable
  width : q.columns.length = 5
  name : q.slot? "Name" = some (.cell 1)
  purpose : q.slot? "IsTableID" = some (.cell 2)
  next : q.slot? "CurrentNext" = some (.cell nextColumn)
  step : q.slot? "IncrementNo" = some (.cell 4)
  number : q.affinity (.cell nextColumn) = .number

theorem declared_sequences : ∃ d ∈ emptyTables, d.name = sequenceTable ∧ Sequences d := by
  refine ⟨_, List.mem_cons_of_mem _ List.mem_cons_self, rfl, ?_⟩
  constructor <;> decide +kernel

theorem sequences_of_wellFormed {s : Store} (sound : s.WellFormed) :
    ∃ q, s.table? sequenceTable = some q ∧ Sequences q := by
  obtain ⟨d, declared, named, shape⟩ := declared_sequences
  obtain ⟨q, member, found, same, columns⟩ := table?_dictionary sound declared
  rw [named] at found same
  refine ⟨q, found, sound.tables q member, same, ?_, ?_, ?_, ?_, ?_, ?_⟩
  · rw [columns, shape.width]
  · rw [slot?_congr columns, shape.name]
  · rw [slot?_congr columns, shape.purpose]
  · rw [slot?_congr columns, shape.next]
  · rw [slot?_congr columns, shape.step]
  · rw [← shape.number]
    unfold Table.affinity
    rw [columns]

def rowOfSequence? (q : Table) (table : String) : Option Row :=
  q.rows.find? fun r => r.read (.cell 2) == .text "Y"
    && namesAgree (((r.read (.cell 1)).text?).getD "") (upper table)

theorem sequenceRow?_eq {s : Store} {q : Table} (found : s.table? sequenceTable = some q)
    (shape : Sequences q) (table : String) : sequenceRow? s table = rowOfSequence? q table := by
  unfold sequenceRow? rowOfSequence? rowsOf textOf cellOf
  rw [found]
  simp only [Option.map_some, Option.getD_some, Option.bind_some, shape.purpose, shape.name]

/-- A missing step and one of 0 count as 1. -/
def stepOf (c : Cell) : Cell :=
  match c with
  | .null | .int 0 | .text "" => .int 1
  | c => c

theorem step_eq {s : Store} {q : Table} (found : s.table? sequenceTable = some q)
    (shape : Sequences q) (r : Row) : step s r = stepOf (r.read (.cell 4)) := by
  have read : cellOf s sequenceTable "IncrementNo" r = r.read (.cell 4) := by
    unfold cellOf
    rw [found, Option.bind_some, shape.step]
  unfold step
  rw [read]
  rfl

theorem currentNext_eq {s : Store} {q : Table} (found : s.table? sequenceTable = some q)
    (shape : Sequences q) (r : Row) : currentNext s r = r.read (.cell nextColumn) := by
  unfold currentNext cellOf
  rw [found, Option.bind_some, shape.next]

def Row.withNext (next : Cell) (r : Row) : Row :=
  { r with cells := r.cells.set nextColumn next }

def withNext (q : Table) (id : Int) (next : Cell) : Table :=
  { q with rows := q.rows.map fun r => if r.id = id then Row.withNext next r else r }

theorem assign_next {q : Table} (shape : Sequences q) (r : Row) (next : Cell) :
    setNext.assign r next q (.cell nextColumn) =
      fun p => if p.id = r.id then Row.withNext (next.stored .number) p else p := by
  funext p
  unfold setNext.assign
  rw [shape.number]
  rfl

theorem setNext_ok {s s' : Store} {q : Table} (found : s.table? sequenceTable = some q)
    (shape : Sequences q) {r : Row} {next : Cell} (h : setNext s r next = .ok s') :
    s' = s.replaceTable (withNext q r.id (next.stored .number)) := by
  unfold setNext at h
  rw [found] at h
  dsimp only at h
  rw [shape.next] at h
  split at h
  · cases h
  · cases h
  · rename_i slot _ leads
    cases leads
    split at h
    · cases h
      rw [assign_next shape]
      rfl
    · cases h
  · rename_i leads _ _
    cases leads
    cases h
    rw [assign_next shape]
    rfl

theorem setNext_int {s : Store} {q : Table} (found : s.table? sequenceTable = some q)
    (shape : Sequences q) (r : Row) {n : Int} (fits : fitsInteger n = true) :
    setNext s r (.int n) = .ok (s.replaceTable (withNext q r.id (.int n))) := by
  unfold setNext
  rw [found]
  dsimp only
  rw [shape.next]
  dsimp only
  rw [if_pos fits, assign_next shape]
  rfl

theorem nextKey_ok {s s' : Store} {q : Table} (found : s.table? sequenceTable = some q)
    (shape : Sequences q) {table : String} {key : Value} (h : nextKey s table = .ok (some key, s')) :
    ∃ r next, rowOfSequence? q table = some r ∧ key = (r.read (.cell nextColumn)).value ∧
      advance (r.read (.cell nextColumn)) (stepOf (r.read (.cell 4))) = .ok next ∧
      s' = s.replaceTable (withNext q r.id (next.stored .number)) := by
  unfold nextKey at h
  rw [sequenceRow?_eq found shape] at h
  split at h
  · cases h
  · rename_i r chosen
    obtain ⟨next, stepped, h⟩ := except_bind_ok h
    obtain ⟨written, set, h⟩ := except_bind_ok h
    cases h
    rw [currentNext_eq found shape, step_eq found shape] at stepped
    exact ⟨r, next, chosen, congrArg Cell.value (currentNext_eq found shape r), stepped,
      setNext_ok found shape set⟩

theorem advance_null (step next : Cell) : advance .null step ≠ .ok next := by
  cases step <;> simp [advance]

theorem nextKey_ne_null {s s' : Store} (sound : s.WellFormed) {table : String} {key : Value}
    (h : nextKey s table = .ok (some key, s')) : key ≠ .null := by
  obtain ⟨q, found, shape⟩ := sequences_of_wellFormed sound
  obtain ⟨r, next, _, rfl, stepped, _⟩ := nextKey_ok found shape h
  generalize r.read (.cell nextColumn) = first at stepped ⊢
  cases first with
  | null => exact absurd stepped (advance_null _ next)
  | int n => exact nofun
  | real x => exact nofun
  | text s => exact nofun

theorem setNext_table? {s s' : Store} {r : Row} {next : Cell} (h : setNext s r next = .ok s')
    {name : String} (other : sameName sequenceTable name = false) :
    s'.table? name = s.table? name := by
  unfold setNext at h
  cases found : s.table? sequenceTable with
  | none =>
      rw [found] at h
      cases h
  | some t =>
      have apart : sameName t.name name = false :=
        (sameName_left (table?_some found).2 name).trans other
      have kept : ∀ rows, (s.withRows t rows).table? name = s.table? name :=
        fun rows => table?_replaceTable_of_ne s apart
      rw [found] at h
      dsimp only at h
      split at h
      · cases h
      · cases h
      · split at h
        · cases h
          exact kept _
        · cases h
      · cases h
        exact kept _

theorem nextKey_table? {s s' : Store} {table : String} {key : Option Value}
    (h : nextKey s table = .ok (key, s')) {name : String}
    (other : sameName sequenceTable name = false) : s'.table? name = s.table? name := by
  unfold nextKey at h
  split at h
  · cases h
    rfl
  · obtain ⟨next, _, h⟩ := except_bind_ok h
    obtain ⟨written, set, h⟩ := except_bind_ok h
    cases h
    exact setNext_table? set other

/-- The key that a sequence hands out after a number of others. -/
def keyAt (first step : Cell) : Nat → Cell
  | 0 => first
  | n + 1 =>
    match advance (keyAt first step n) step with
    | .ok next => next.stored .number
    | .error _ => .null

theorem keyAt_int (a b : Int) (n : Nat) : keyAt (.int a) (.int b) n = .int (a + n * b) := by
  induction n with
  | zero => simp [keyAt]
  | succ n ih =>
      unfold keyAt
      rw [ih]
      change Cell.int (a + n * b + b) = _
      congr 1
      rw [Int.natCast_succ, Int.add_mul, Int.one_mul, Int.add_assoc]

theorem read_withNext_of_ne (next : Cell) (r : Row) {i : Nat} (other : i ≠ nextColumn) :
    (Row.withNext next r).read (.cell i) = r.read (.cell i) := by
  change (r.cells.set nextColumn next).getD i .null = r.cells.getD i .null
  rw [List.getD_eq_getElem?_getD, List.getD_eq_getElem?_getD, List.getElem?_set_ne other.symm]

theorem read_withNext {q : Table} (shape : Sequences q) {r : Row} (member : r ∈ q.rows)
    (next : Cell) : (Row.withNext next r).read (.cell nextColumn) = next := by
  have bound : nextColumn < r.cells.length := by
    rw [shape.sound.cells r member, shape.width]
    decide
  change (r.cells.set nextColumn next).getD nextColumn .null = next
  rw [List.getD_eq_getElem?_getD, List.getElem?_set_self bound]
  rfl

theorem withNext_self {q : Table} (shape : Sequences q) {r : Row} (member : r ∈ q.rows) :
    withNext q r.id (r.read (.cell nextColumn)) = q := by
  have bound : nextColumn < r.cells.length := by
    rw [shape.sound.cells r member, shape.width]
    decide
  have held : r.read (.cell nextColumn) = r.cells[nextColumn] := by
    change r.cells.getD nextColumn .null = _
    rw [List.getD_eq_getElem?_getD, List.getElem?_eq_getElem bound]
    rfl
  have kept : ∀ p ∈ q.rows, (if p.id = r.id then
      Row.withNext (r.read (.cell nextColumn)) p else p) = p := by
    intro p inside
    by_cases same : p.id = r.id
    · rw [if_pos same, shape.sound.eq_of_id inside member same, held]
      unfold Row.withNext
      rw [List.set_getElem_self]
    · rw [if_neg same]
  unfold withNext
  rw [List.map_congr_left kept, List.map_id']

theorem withNext_withNext (q : Table) (id : Int) (a b : Cell) :
    withNext (withNext q id a) id b = withNext q id b := by
  unfold withNext
  rw [List.map_map]
  congr 1
  apply List.map_congr_left
  intro r _
  simp only [Function.comp_apply]
  by_cases same : r.id = id
  · rw [if_pos same, if_pos same]
    unfold Row.withNext
    rw [if_pos same, List.set_set]
  · rw [if_neg same, if_neg same]

theorem id_withNext (r : Row) (id : Int) (next : Cell) :
    (if r.id = id then Row.withNext next r else r).id = r.id := by
  split <;> rfl

theorem Sequences.mapRows {q : Table} (shape : Sequences q) {g : Row → Row}
    (ids : ∀ r, (g r).id = r.id) (cells : ∀ r, (g r).cells.length = r.cells.length) :
    Sequences { q with rows := q.rows.map g } := by
  refine ⟨⟨shape.sound.names, shape.sound.key, ?_, ?_⟩, shape.named, shape.width, shape.name,
    shape.purpose, shape.next, shape.step, shape.number⟩
  · refine List.pairwise_map.mpr (shape.sound.ids.imp ?_)
    intro p r less
    rw [ids, ids]
    exact less
  · intro r member
    obtain ⟨p, inside, rfl⟩ := List.mem_map.mp member
    rw [cells]
    exact shape.sound.cells p inside

theorem Sequences.withNext {q : Table} (shape : Sequences q) (id : Int) (next : Cell) :
    Sequences (withNext q id next) := by
  refine shape.mapRows (fun r => id_withNext r id next) fun r => ?_
  split
  · exact List.length_set ..
  · rfl

theorem nextKey_wellFormed {s s' : Store} (sound : s.WellFormed) {table : String} {key : Value}
    (h : nextKey s table = .ok (some key, s')) : s'.WellFormed := by
  obtain ⟨q, found, shape⟩ := sequences_of_wellFormed sound
  obtain ⟨r, next, _, _, _, rfl⟩ := nextKey_ok found shape h
  exact sound.replaceTable found rfl rfl (shape.withNext r.id (next.stored .number)).sound

/-- A change of rows that leaves names and purposes leaves the row of the sequence of each table. -/
theorem rowOfSequence?_mapRows (q : Table) {g : Row → Row}
    (name : ∀ r, (g r).read (.cell 1) = r.read (.cell 1))
    (purpose : ∀ r, (g r).read (.cell 2) = r.read (.cell 2)) (table : String) :
    rowOfSequence? { q with rows := q.rows.map g } table = (rowOfSequence? q table).map g := by
  unfold rowOfSequence?
  rw [List.find?_map]
  congr 2
  funext p
  simp only [Function.comp_apply, name, purpose]

/-- The row of the sequence of a table stays that row whatever its next key is. -/
theorem rowOfSequence?_withNext {q : Table} {table : String} {r : Row}
    (chosen : rowOfSequence? q table = some r) (next : Cell) :
    rowOfSequence? (withNext q r.id next) table = some (Row.withNext next r) := by
  have other : ∀ i ≠ nextColumn, ∀ p : Row,
      (if p.id = r.id then Row.withNext next p else p).read (.cell i) = p.read (.cell i) := by
    intro i apart p
    split
    · exact read_withNext_of_ne next p apart
    · rfl
  refine (rowOfSequence?_mapRows q (other 1 (by decide)) (other 2 (by decide)) table).trans ?_
  rw [chosen]
  exact congrArg some (if_pos rfl)

def afterKeys (q : Table) (table : String) (n : Nat) : Table :=
  match rowOfSequence? q table with
  | none => q
  | some r =>
    withNext q r.id (keyAt (r.read (.cell nextColumn)) (stepOf (r.read (.cell 4))) n)

theorem afterKeys_zero {q : Table} (shape : Sequences q) (table : String) :
    afterKeys q table 0 = q := by
  unfold afterKeys
  split
  · rfl
  · rename_i r chosen
    exact withNext_self shape (List.mem_of_find?_eq_some chosen)

theorem sequences_afterKeys {q : Table} (shape : Sequences q) (table : String) (n : Nat) :
    Sequences (afterKeys q table n) := by
  unfold afterKeys
  split
  · exact shape
  · exact shape.withNext _ _

theorem nextKey_afterKeys {s s' : Store} {q : Table} (shape : Sequences q) {table : String} {n : Nat}
    (found : s.table? sequenceTable = some (afterKeys q table n)) {key : Value}
    (h : nextKey s table = .ok (some key, s')) :
    ∃ r, rowOfSequence? q table = some r ∧
      key = (keyAt (r.read (.cell nextColumn)) (stepOf (r.read (.cell 4))) n).value ∧
      s' = s.replaceTable (afterKeys q table (n + 1)) := by
  obtain ⟨p, next, chosen, named, stepped, rfl⟩ :=
    nextKey_ok found (sequences_afterKeys shape table n) h
  unfold afterKeys at chosen
  cases original : rowOfSequence? q table with
  | none =>
      rw [original] at chosen
      dsimp only at chosen
      rw [original] at chosen
      cases chosen
  | some r =>
      have member := List.mem_of_find?_eq_some original
      rw [original] at chosen
      dsimp only at chosen
      rw [rowOfSequence?_withNext original] at chosen
      cases chosen
      rw [read_withNext shape member, read_withNext_of_ne _ r (by decide)] at stepped
      rw [read_withNext shape member] at named
      refine ⟨r, rfl, named, ?_⟩
      unfold afterKeys
      rw [original]
      dsimp only
      rw [show (Row.withNext (keyAt (r.read (.cell nextColumn)) (stepOf (r.read (.cell 4))) n) r).id
        = r.id from rfl, withNext_withNext]
      congr 2
      rw [keyAt, stepped]

/-- The key of a table that its sequence hands out after a number of others. -/
def keyNumber? (s : Store) (table : String) (n : Nat) : Option Cell :=
  (sequenceRow? s table).map fun r => keyAt (currentNext s r) (step s r) n

/-- One more key comes from sequences that handed out a number of keys, and is the next one. -/
theorem nextKey_keyNumber? {s u u' : Store} (sound : s.WellFormed) {table : String} {n : Nat}
    (handed : u.table? sequenceTable = (s.table? sequenceTable).map (afterKeys · table n))
    {key : Value} (h : nextKey u table = .ok (some key, u')) :
    (∃ c, keyNumber? s table n = some c ∧ key = c.value) ∧
      u'.table? sequenceTable = (s.table? sequenceTable).map (afterKeys · table (n + 1)) := by
  obtain ⟨q, found, shape⟩ := sequences_of_wellFormed sound
  rw [found, Option.map_some] at handed ⊢
  obtain ⟨r, chosen, rfl, rfl⟩ := nextKey_afterKeys shape handed h
  constructor
  · refine ⟨_, ?_, rfl⟩
    unfold keyNumber?
    rw [sequenceRow?_eq found shape, chosen, Option.map_some, currentNext_eq found shape,
      step_eq found shape]
  · exact table?_replaceTable_self handed
      ((sequences_afterKeys shape table (n + 1)).named.trans (sequences_afterKeys shape table n).named.symm)

/-- Where keys are integers, the next one is as many steps further as keys were handed out. -/
theorem currentNext_afterKeys {s u : Store} (sound : s.WellFormed) {table : String} {n : Nat}
    (handed : u.table? sequenceTable = (s.table? sequenceTable).map (afterKeys · table n))
    {r : Row} {a b : Int} (chosen : sequenceRow? s table = some r)
    (first : currentNext s r = .int a) (stepped : step s r = .int b) :
    ∃ r', sequenceRow? u table = some r' ∧ currentNext u r' = .int (a + n * b) := by
  obtain ⟨q, found, shape⟩ := sequences_of_wellFormed sound
  rw [found, Option.map_some] at handed
  rw [sequenceRow?_eq found shape] at chosen
  rw [currentNext_eq found shape] at first
  rw [step_eq found shape] at stepped
  have after := sequences_afterKeys shape table n
  have same : afterKeys q table n = withNext q r.id (.int (a + n * b)) := by
    unfold afterKeys
    rw [chosen]
    dsimp only
    rw [first, stepped, keyAt_int]
  refine ⟨Row.withNext (.int (a + n * b)) r, ?_, ?_⟩
  · rw [sequenceRow?_eq handed after, same]
    exact rowOfSequence?_withNext chosen _
  · rw [currentNext_eq handed after]
    exact read_withNext shape (List.mem_of_find?_eq_some chosen) _

end RowLoader.Dictionary
