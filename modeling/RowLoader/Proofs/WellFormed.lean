import Mathlib.Data.List.Sort
import RowLoader.Proofs.Work

/-!
Well-formed stores. The lists that a store consists of say more than a store can be: names may repeat,
rows may stand in any order, a table may have two key columns. What rules this out holds of the empty
store and is kept by every statement and by every key that is handed out.
-/

namespace RowLoader

namespace Text

theorem sameName_iff {a b : String} : sameName a b = true ↔ asciiUpper a = asciiUpper b := by
  simp [sameName]

@[simp] theorem sameName_self (a : String) : sameName a a = true := sameName_iff.mpr rfl

theorem sameName_comm (a b : String) : sameName a b = sameName b a := by
  rw [Bool.eq_iff_iff, sameName_iff, sameName_iff]
  exact eq_comm

theorem sameName_left {a b : String} (h : sameName a b = true) (c : String) :
    sameName a c = sameName b c := by
  rw [Bool.eq_iff_iff, sameName_iff, sameName_iff, sameName_iff.mp h]

theorem sameName_right (c : String) {a b : String} (h : sameName a b = true) :
    sameName c a = sameName c b := by
  rw [sameName_comm c a, sameName_comm c b, sameName_left h]

end Text

namespace Store

open RowLoader.Text RowLoader.Dictionary

/-- A table as a store keeps it: no two columns agree in name, one column at most is the id, the rows
are in the order of their ids, and every row has a cell for each column. -/
structure Table.WellFormed (t : Table) : Prop where
  names : t.columns.Pairwise fun c d => sameName c.name d.name = false
  key : t.columns.Pairwise fun c d => c.duty = .key → d.duty ≠ .key
  ids : t.rows.Pairwise fun q r => q.id < r.id
  cells : ∀ r ∈ t.rows, r.cells.length = t.columns.length

theorem Table.wellFormed_iff (t : Table) : t.WellFormed ↔
    (t.columns.Pairwise fun c d => sameName c.name d.name = false) ∧
      (t.columns.Pairwise fun c d => c.duty = .key → d.duty ≠ .key) ∧
      (t.rows.Pairwise fun q r => q.id < r.id) ∧
      ∀ r ∈ t.rows, r.cells.length = t.columns.length := by
  constructor
  · intro h
    exact ⟨h.names, h.key, h.ids, h.cells⟩
  · intro h
    exact ⟨h.1, h.2.1, h.2.2.1, h.2.2.2⟩

instance (t : Table) : Decidable t.WellFormed := decidable_of_iff _ t.wellFormed_iff.symm

/-- A store with well-formed tables of different names, among them those of the dictionary as they are
declared. -/
structure WellFormed (s : Store) : Prop where
  names : s.tables.Pairwise fun t u => sameName t.name u.name = false
  tables : ∀ t ∈ s.tables, t.WellFormed
  dictionary : ∀ d ∈ emptyTables, ∃ t ∈ s.tables, t.name = d.name ∧ t.columns = d.columns

theorem wellFormed_iff (s : Store) : s.WellFormed ↔
    (s.tables.Pairwise fun t u => sameName t.name u.name = false) ∧
      (∀ t ∈ s.tables, t.WellFormed) ∧
      ∀ d ∈ emptyTables, ∃ t ∈ s.tables, t.name = d.name ∧ t.columns = d.columns := by
  constructor
  · intro h
    exact ⟨h.names, h.tables, h.dictionary⟩
  · intro h
    exact ⟨h.1, h.2.1, h.2.2⟩

instance (s : Store) : Decidable s.WellFormed := decidable_of_iff _ s.wellFormed_iff.symm

theorem wellFormed_emptyStore (now : Calendar.Timestamp) : (emptyStore now).WellFormed := by
  have declared : (emptyTables.Pairwise fun t u => sameName t.name u.name = false) ∧
      (∀ t ∈ emptyTables, t.WellFormed) ∧
      ∀ d ∈ emptyTables, ∃ t ∈ emptyTables, t.name = d.name ∧ t.columns = d.columns := by
    decide +kernel
  exact ⟨declared.1, declared.2.1, declared.2.2⟩

theorem table?_some {s : Store} {name : String} {t : Table} (h : s.table? name = some t) :
    t ∈ s.tables ∧ sameName t.name name = true := by
  unfold table? at h
  exact ⟨List.mem_of_find?_eq_some h, by simpa using List.find?_some h⟩

theorem table?_congr {s : Store} {a b : String} (h : sameName a b = true) :
    s.table? a = s.table? b := by
  unfold table?
  congr 1
  funext t
  exact sameName_right t.name h

theorem find?_of_mem {tables : List Table}
    (names : tables.Pairwise fun t u => sameName t.name u.name = false) {t : Table}
    (member : t ∈ tables) {name : String} (named : sameName t.name name = true) :
    tables.find? (fun u => sameName u.name name) = some t := by
  induction tables with
  | nil => cases member
  | cons u rest ih =>
      obtain ⟨apart, names⟩ := List.pairwise_cons.mp names
      rcases List.mem_cons.mp member with rfl | later
      · exact List.find?_cons_of_pos named
      · have differ := apart t later
        rw [sameName_right u.name named] at differ
        rw [List.find?_cons_of_neg (by simp [differ])]
        exact ih names later

theorem WellFormed.table?_of_mem {s : Store} (sound : s.WellFormed) {t : Table}
    (member : t ∈ s.tables) {name : String} (named : sameName t.name name = true) :
    s.table? name = some t := find?_of_mem sound.names member named

theorem find?_replaceIn (t : Table) (name : String) (tables : List Table) :
    (replaceIn t tables).find? (fun u => sameName u.name name) =
      if sameName t.name name then
        (tables.find? fun u => sameName u.name name).map fun _ => t
      else tables.find? fun u => sameName u.name name := by
  induction tables with
  | nil => simp [replaceIn]
  | cons u rest ih =>
      unfold replaceIn
      cases hu : sameName u.name t.name with
      | true =>
          have both := sameName_left hu name
          cases hn : sameName t.name name <;> simp [hn, both]
      | false =>
          cases hn : sameName t.name name with
          | true =>
              have other : sameName u.name name = false := by rw [← sameName_right u.name hn, hu]
              simpa [other, hn] using ih
          | false =>
              cases hk : sameName u.name name <;> simp [hk, hn, ih]

theorem table?_replaceTable (s : Store) (t : Table) (name : String) :
    (s.replaceTable t).table? name =
      if sameName t.name name then (s.table? name).map fun _ => t else s.table? name :=
  find?_replaceIn t name s.tables

theorem table?_replaceTable_self {s : Store} {t u : Table} {name : String}
    (h : s.table? name = some u) (named : t.name = u.name) :
    (s.replaceTable t).table? name = some t := by
  have agrees := (table?_some h).2
  rw [table?_replaceTable, named, agrees, h]
  rfl

theorem table?_replaceTable_of_ne (s : Store) {t : Table} {name : String}
    (other : sameName t.name name = false) :
    (s.replaceTable t).table? name = s.table? name := by
  rw [table?_replaceTable, other]
  rfl

theorem mem_replaceIn {t u : Table} {tables : List Table} (h : u ∈ replaceIn t tables) :
    u = t ∨ u ∈ tables := by
  induction tables with
  | nil => cases h
  | cons v rest ih =>
      unfold replaceIn at h
      split at h
      · rcases List.mem_cons.mp h with rfl | later
        · exact .inl rfl
        · exact .inr (List.mem_cons_of_mem _ later)
      · rcases List.mem_cons.mp h with rfl | later
        · exact .inr List.mem_cons_self
        · exact (ih later).imp id (List.mem_cons_of_mem _)

theorem mem_replaceIn_of_ne {t u : Table} {tables : List Table} (member : u ∈ tables)
    (other : sameName u.name t.name = false) : u ∈ replaceIn t tables := by
  induction tables with
  | nil => cases member
  | cons v rest ih =>
      unfold replaceIn
      rcases List.mem_cons.mp member with rfl | later
      · rw [other]
        exact List.mem_cons_self
      · split
        · exact List.mem_cons_of_mem _ later
        · exact List.mem_cons_of_mem _ (ih later)

theorem names_replaceIn (t : Table) {tables : List Table}
    (names : tables.Pairwise fun t u => sameName t.name u.name = false) :
    (replaceIn t tables).Pairwise fun t u => sameName t.name u.name = false := by
  induction tables with
  | nil => exact names
  | cons v rest ih =>
      obtain ⟨apart, names⟩ := List.pairwise_cons.mp names
      unfold replaceIn
      split
      · rename_i named
        refine List.pairwise_cons.mpr ⟨?_, names⟩
        intro u member
        rw [← sameName_left named u.name]
        exact apart u member
      · rename_i other
        refine List.pairwise_cons.mpr ⟨?_, ih names⟩
        intro u member
        rcases mem_replaceIn member with rfl | member
        · simpa using other
        · exact apart u member

theorem WellFormed.replaceTable {s : Store} (sound : s.WellFormed) {t u : Table} {name : String}
    (h : s.table? name = some u) (named : t.name = u.name) (columns : t.columns = u.columns)
    (filled : t.WellFormed) : (s.replaceTable t).WellFormed := by
  obtain ⟨member, _⟩ := table?_some h
  refine ⟨names_replaceIn t sound.names, ?_, ?_⟩
  · intro v inside
    rcases mem_replaceIn inside with rfl | inside
    · exact filled
    · exact sound.tables v inside
  · intro d declared
    obtain ⟨v, inside, same, schema⟩ := sound.dictionary d declared
    cases hv : sameName v.name t.name with
    | false => exact ⟨v, mem_replaceIn_of_ne inside hv, same, schema⟩
    | true =>
        -- the replaced table is the one that stands for this part of the dictionary
        have found := sound.table?_of_mem inside hv
        rw [named] at found
        have here := sound.table?_of_mem member (sameName_self u.name)
        have replaced : v = u := Option.some.inj (found.symm.trans here)
        subst replaced
        have kept := table?_replaceTable_self here named
        exact ⟨t, (table?_some kept).1, named.trans same, columns.trans schema⟩

theorem insertRow_perm (row : Row) (rows : List Row) : (insertRow row rows).Perm (row :: rows) := by
  induction rows with
  | nil => exact .refl _
  | cons r rest ih =>
      unfold insertRow
      split
      · exact .refl _
      · exact (ih.cons r).trans (.swap row r rest)

theorem mem_insertRow {row r : Row} {rows : List Row} : r ∈ insertRow row rows ↔ r = row ∨ r ∈ rows := by
  rw [(insertRow_perm row rows).mem_iff, List.mem_cons]

theorem insertRow_pairwise {row : Row} {rows : List Row}
    (ordered : rows.Pairwise fun q r => q.id < r.id) (fresh : ∀ r ∈ rows, r.id ≠ row.id) :
    (insertRow row rows).Pairwise fun q r => q.id < r.id := by
  induction rows with
  | nil => simp [insertRow]
  | cons r rest ih =>
      obtain ⟨first, ordered⟩ := List.pairwise_cons.mp ordered
      unfold insertRow
      split
      · rename_i before
        refine List.pairwise_cons.mpr ⟨?_, List.pairwise_cons.mpr ⟨first, ordered⟩⟩
        intro q member
        rcases List.mem_cons.mp member with rfl | later
        · exact before
        · exact before.trans (first q later)
      · rename_i behind
        have apart := fresh r List.mem_cons_self
        refine List.pairwise_cons.mpr ⟨?_, ih ordered fun q member => fresh q (List.mem_cons_of_mem _ member)⟩
        intro q member
        rcases mem_insertRow.mp member with rfl | later
        · omega
        · exact first q later

theorem row?_eq_none {t : Table} {id : Int} (h : t.row? id = none) : ∀ r ∈ t.rows, r.id ≠ id := by
  intro r member same
  have other := List.find?_eq_none.mp h r member
  simp [same] at other

theorem Table.WellFormed.eq_of_id {t : Table} (sound : t.WellFormed) {q r : Row} (hq : q ∈ t.rows)
    (hr : r ∈ t.rows) (same : q.id = r.id) : q = r := by
  have apart : (t.rows.map Row.id).Nodup :=
    List.pairwise_map.mpr (sound.ids.imp fun less => ne_of_lt less)
  exact List.inj_on_of_nodup_map apart hq hr same

@[simp] theorem length_cellsBy (t : Table) (cellAt : Nat → Cell) :
    (cellsBy t cellAt).length = t.columns.length := by simp [cellsBy]

/-- The id that the last assignment to it gives a new row, or the next one of the table. -/
def GivesId (t : Table) (a : Assignments) (id : Int) : Prop :=
  ((lastAssigned? a .id).getD .null).stored .number = .int id ∨
    ((lastAssigned? a .id).getD .null).stored .number = .null ∧ id = t.nextId

theorem place_ok {t t' : Table} {id : Int} {cells : List Cell}
    (h : insertInto.place t id cells = .ok t') :
    t.row? id = none ∧ t' = { t with rows := insertRow ⟨id, cells⟩ t.rows } := by
  unfold insertInto.place at h
  split at h
  · cases h
  · split at h
    · cases h
    · rename_i free
      split at h
      · cases h
      · cases h
        exact ⟨by simpa using free, rfl⟩

theorem insertInto_ok {t t' : Table} {a : Assignments} (h : insertInto t a = .ok t') :
    ∃ id, GivesId t a id ∧ t.row? id = none ∧
      t' = { t with rows := insertRow ⟨id, cellsBy t (newCell t a)⟩ t.rows } := by
  unfold insertInto at h
  dsimp only at h
  split at h
  · rename_i unnamed
    exact ⟨t.nextId, .inr ⟨unnamed, rfl⟩, place_ok h⟩
  · rename_i id named
    exact ⟨id, .inl named, place_ok h⟩
  · cases h

theorem insertInto_wellFormed {t t' : Table} {a : Assignments} (sound : t.WellFormed)
    (h : insertInto t a = .ok t') : t'.WellFormed := by
  obtain ⟨id, _, free, rfl⟩ := insertInto_ok h
  refine ⟨sound.names, sound.key, insertRow_pairwise sound.ids (row?_eq_none free), ?_⟩
  intro r member
  rcases mem_insertRow.mp member with rfl | old
  · exact length_cellsBy t _
  · exact sound.cells r old

def movedRows (t : Table) (a : Assignments) (id : Int) (r : Row) : List Row :=
  insertRow { assignRow t a r with id := id } (t.rows.filter fun q => q.id ≠ r.id)

theorem moveRow_ok {t : Table} {a : Assignments} {id : Int} {first : Row} {rest rows : List Row}
    (h : moveRow t a id (first :: rest) = .ok rows) :
    rest = [] ∧ (id = first.id ∨ t.row? id = none) ∧ rows = movedRows t a id first := by
  rw [moveRow] at h
  split at h
  · cases h
  · rename_i allowed
    obtain ⟨_, _, h⟩ := except_bind_ok h
    split at h
    · rename_i alone
      cases h
      refine ⟨List.isEmpty_iff.mp alone, ?_, rfl⟩
      by_cases same : id = first.id
      · exact .inl same
      · refine .inr ?_
        simpa [same] using allowed
    · cases h

/-- What an update leaves: the table as it was, its rows with assigned cells, or one row moved to a new
id. -/
theorem updateIn_ok {t t' : Table} {a : Assignments} {conditions : Conditions} {affected : Nat}
    (h : updateIn t a conditions = .ok (t', affected)) :
    affected = (t.select conditions).length ∧
      (t.select conditions = [] ∧ t' = t ∨
        setId? a = none ∧ t' = { t with rows := assignRows t a conditions } ∨
        ∃ id r, setId? a = some (.int id) ∧ t.select conditions = [r] ∧
          (id = r.id ∨ t.row? id = none) ∧
          t' = { t with rows := movedRows t a id r }) := by
  unfold updateIn at h
  cases chosen : t.select conditions with
  | nil =>
      rw [chosen] at h
      cases h
      exact ⟨rfl, .inl ⟨rfl, rfl⟩⟩
  | cons first rest =>
      rw [chosen] at h
      dsimp only at h
      split at h
      · rename_i unmoved
        obtain ⟨_, _, h⟩ := except_bind_ok h
        obtain ⟨_, _, h⟩ := except_bind_ok h
        cases h
        exact ⟨rfl, .inr (.inl ⟨unmoved, rfl⟩)⟩
      · rename_i id moved
        obtain ⟨_, _, h⟩ := except_bind_ok h
        obtain ⟨rows, done, h⟩ := except_bind_ok h
        cases h
        obtain ⟨rfl, allowed, rfl⟩ := moveRow_ok done
        exact ⟨rfl, .inr (.inr ⟨id, first, moved, rfl, allowed, rfl⟩)⟩
      · cases h

theorem updateIn_same {t t' : Table} {a : Assignments} {conditions : Conditions} {affected : Nat}
    (h : updateIn t a conditions = .ok (t', affected)) :
    t'.name = t.name ∧ t'.columns = t.columns := by
  obtain ⟨_, ⟨_, rfl⟩ | ⟨_, rfl⟩ | ⟨id, r, _, _, _, rfl⟩⟩ := updateIn_ok h <;> exact ⟨rfl, rfl⟩

theorem assignRows_wellFormed {t : Table} (sound : t.WellFormed) (a : Assignments)
    (conditions : Conditions) : { t with rows := assignRows t a conditions : Table }.WellFormed := by
  refine ⟨sound.names, sound.key, ?_, ?_⟩
  · refine List.pairwise_map.mpr (sound.ids.imp ?_)
    intro q r less
    have kept : ∀ r : Row, (if t.meets conditions r then assignRow t a r else r).id = r.id := by
      intro r
      split <;> rfl
    rw [kept, kept]
    exact less
  · intro r member
    obtain ⟨q, inside, rfl⟩ := List.mem_map.mp member
    split
    · exact length_cellsBy t _
    · exact sound.cells q inside

theorem moveRow_wellFormed {t : Table} (sound : t.WellFormed) (a : Assignments) {id : Int} {r : Row}
    (allowed : id = r.id ∨ t.row? id = none) :
    { t with rows := movedRows t a id r : Table }.WellFormed := by
  refine ⟨sound.names, sound.key, ?_, ?_⟩
  · refine insertRow_pairwise (sound.ids.filter _) ?_
    intro q member
    obtain ⟨inside, other⟩ := List.mem_filter.mp member
    rcases allowed with rfl | free
    · exact of_decide_eq_true other
    · exact row?_eq_none free q inside
  · intro q member
    rcases mem_insertRow.mp member with rfl | old
    · exact length_cellsBy t _
    · exact sound.cells q (List.mem_filter.mp old).1

theorem updateIn_wellFormed {t t' : Table} {a : Assignments} {conditions : Conditions}
    {affected : Nat} (sound : t.WellFormed) (h : updateIn t a conditions = .ok (t', affected)) :
    t'.WellFormed := by
  obtain ⟨_, ⟨_, rfl⟩ | ⟨_, rfl⟩ | ⟨id, r, _, _, allowed, rfl⟩⟩ := updateIn_ok h
  · exact sound
  · exact assignRows_wellFormed sound a conditions
  · exact moveRow_wellFormed sound a allowed

/-- The rows of the dictionary that describe one table, by the table that they stand in: the table is
the first, the first tab shows it, its columns have display types, its sequence hands out keys from
some key on in some steps, and the first template imports into it. -/
def description (name : String) (types : List (String × Int)) (next step : Int)
    (header : Option String) (part : String) : List Row :=
  if part = tableTable then [⟨1, [.null, .text name, .text name, .text "Y"]⟩]
  else if part = sequenceTable then [⟨1, [.null, .text name, .text "Y", .int next, .int step]⟩]
  else if part = tabTable then [⟨1, [.null, .int 1, .text name]⟩]
  else if part = columnTable then
    (types.zipIdx 1).map fun c =>
      ⟨c.2, [.null, .int 1, .text c.1.1, .int c.1.2, .null, .null]⟩
  else
    [⟨1, [.null, .int 0, .int 0, .text name, .null, .null, .int 1,
      (header.map Cell.text).getD .null] ++ List.replicate 6 .null⟩]

def describedNow : Calendar.Timestamp :=
  Calendar.Date.midnight ⟨2026, 1, 2⟩

/-- A store with one table besides the dictionary, and a dictionary that describes it. -/
def describing (t : Table) (types : List (String × Int)) (next step : Int)
    (header : Option String) : Store where
  tables :=
    emptyTables.map (fun d => { d with rows := description t.name types next step header d.name })
      ++ [t]
  now := describedNow

theorem pairwise_zipIdx (types : List (String × Int)) (first : Nat) :
    (types.zipIdx first).Pairwise fun c d => c.2 < d.2 := by
  induction types generalizing first with
  | nil => exact .nil
  | cons c rest ih =>
      refine List.pairwise_cons.mpr ⟨?_, ih (first + 1)⟩
      intro d later
      have behind := List.le_snd_of_mem_zipIdx later
      exact behind

theorem wellFormed_described (name : String) (types : List (String × Int)) (next step : Int)
    (header : Option String) {d : Table} (declared : d ∈ emptyTables) :
    ({ d with rows := description name types next step header d.name } : Table).WellFormed := by
  have schema := (wellFormed_emptyStore describedNow).tables d declared
  have keys : ((types.zipIdx 1).map fun c =>
      (⟨c.2, [.null, .int 1, .text c.1.1, .int c.1.2, .null, .null]⟩ : Row)).Pairwise
        fun q r => q.id < r.id :=
    List.pairwise_map.mpr ((pairwise_zipIdx types 1).imp fun less => Int.ofNat_lt.mpr less)
  simp only [emptyTables, List.mem_cons, List.not_mem_nil, or_false] at declared
  refine ⟨schema.names, schema.key, ?_, ?_⟩
  · rcases declared with rfl | rfl | rfl | rfl | rfl <;>
      simp [description, Dictionary.schema, tableTable, sequenceTable, tabTable, columnTable,
        templateTable]
    exact keys
  · rcases declared with rfl | rfl | rfl | rfl | rfl <;>
      simp [description, Dictionary.schema, tableTable, sequenceTable, tabTable, columnTable,
        templateTable]
    rintro r column type id _ rfl
    rfl

theorem wellFormed_describing {t : Table} (sound : t.WellFormed)
    (other : ∀ d ∈ emptyTables, sameName d.name t.name = false) (types : List (String × Int))
    (next step : Int) (header : Option String) :
    (describing t types next step header).WellFormed := by
  refine ⟨?_, ?_, ?_⟩
  · refine List.pairwise_append.mpr ⟨?_, List.pairwise_singleton _ _, ?_⟩
    · exact List.pairwise_map.mpr (wellFormed_emptyStore describedNow).names
    · intro d inside u last
      obtain ⟨e, declared, rfl⟩ := List.mem_map.mp inside
      rw [List.mem_singleton.mp last]
      exact other e declared
  · intro u inside
    rcases List.mem_append.mp inside with inside | last
    · obtain ⟨e, declared, rfl⟩ := List.mem_map.mp inside
      exact wellFormed_described t.name types next step header declared
    · rw [List.mem_singleton.mp last]
      exact sound
  · intro d declared
    exact ⟨_, List.mem_append_left _ (List.mem_map_of_mem declared), rfl, rfl⟩

def parts : Table :=
  { schema "Part"
      [texts "Value" 40 .free, texts "Name" 60 .free, integers "Amount" .free,
        integers "AD_Client_ID" .required, integers "AD_Org_ID" .required, moments "Created",
        integers "CreatedBy" .free, moments "Updated", integers "UpdatedBy" .free,
        texts "UUID" 36 .free] with
    rows :=
      [⟨1, [.null, .text "A", .text "Axle", .int 4, .int 0, .int 0] ++ List.replicate 5 .null⟩,
        ⟨2, [.null, .text "B", .text "Bolt", .int 9, .int 0, .int 0] ++ List.replicate 5 .null⟩] }

def partStore : Store :=
  describing parts [("Part_ID", 13), ("Value", 10), ("Name", 10), ("Amount", 11)] 3 1 none

theorem wellFormed_partStore : partStore.WellFormed :=
  wellFormed_describing (by decide +kernel) (by decide +kernel) _ 3 1 none

end Store

end RowLoader
