import RowLoader.Proofs.WellFormed

/-!
What a statement leaves. Executing one changes the table that it names and no other; a new row has in
each slot what it is given there, and the rows before it stay as they are.
-/

namespace RowLoader.Store

open RowLoader.Text RowLoader.Identifier

/-- The name of a slot in every table that has no such column. -/
def isIdName (name : String) : Bool :=
  idNames.any (sameName · name)

theorem slot?_cell {t : Table} {name : String} {i : Nat} (h : t.slot? name = some (.cell i)) :
    ∃ c, t.columns[i]? = some c ∧ sameName c.name name = true := by
  unfold Table.slot? at h
  split at h
  · rename_i j found
    obtain ⟨bound, named, _⟩ := List.findIdx?_eq_some_iff_getElem.mp found
    rw [List.getElem?_eq_getElem bound] at h
    dsimp only at h
    split at h
    · cases h
    · cases h
      exact ⟨_, List.getElem?_eq_getElem bound, named⟩
  · split at h <;> cases h

theorem slot?_id {t : Table} {name : String} (h : t.slot? name = some .id) :
    (∃ c ∈ t.columns, c.duty = .key ∧ sameName c.name name = true) ∨ isIdName name = true := by
  unfold Table.slot? at h
  split at h
  · rename_i j found
    obtain ⟨bound, named, _⟩ := List.findIdx?_eq_some_iff_getElem.mp found
    rw [List.getElem?_eq_getElem bound] at h
    dsimp only at h
    split at h
    · rename_i key
      exact .inl ⟨_, List.getElem_mem bound, key, named⟩
    · cases h
  · split at h
    · rename_i listed
      exact .inr listed
    · cases h

theorem slot?_of_sameName {a b : String} (same : sameName a b = true) (t : Table) :
    t.slot? a = t.slot? b := by
  have named : (fun c : Column => sameName c.name a) = fun c => sameName c.name b :=
    funext fun c => sameName_right c.name same
  have listed : (fun n : String => sameName n a) = fun n => sameName n b :=
    funext fun n => sameName_right n same
  unfold Table.slot?
  rw [named, listed]

theorem Table.WellFormed.eq_of_key {t : Table} (sound : t.WellFormed) {c d : Column}
    (hc : c ∈ t.columns) (hd : d ∈ t.columns) (ck : c.duty = .key) (dk : d.duty = .key) :
    c = d := by
  obtain ⟨i, foundC⟩ := List.getElem?_of_mem hc
  obtain ⟨j, foundD⟩ := List.getElem?_of_mem hd
  obtain ⟨boundC, hi⟩ := List.getElem?_eq_some_iff.mp foundC
  obtain ⟨boundD, hj⟩ := List.getElem?_eq_some_iff.mp foundD
  have apart := List.pairwise_iff_getElem.mp sound.key
  rcases Nat.lt_trichotomy i j with before | same | after
  · exact absurd (hj ▸ dk) (apart i j boundC boundD before (hi ▸ ck))
  · subst same
    exact hi.symm.trans hj
  · exact absurd (hi ▸ ck) (apart j i boundD boundC after (hj ▸ dk))

/-- Names that lead to the same slot agree, unless one means the id in every table. -/
theorem Table.WellFormed.sameName_of_slot {t : Table} (sound : t.WellFormed) {a b : String}
    {slot : Slot} (ha : t.slot? a = some slot) (hb : t.slot? b = some slot)
    (plainA : isIdName a = false) (plainB : isIdName b = false) : sameName a b = true := by
  cases slot with
  | cell i =>
      obtain ⟨c, found, namedA⟩ := slot?_cell ha
      obtain ⟨d, again, namedB⟩ := slot?_cell hb
      cases found.symm.trans again
      rw [← sameName_left namedA b]
      exact namedB
  | id =>
      rcases slot?_id ha with ⟨c, hc, ck, namedA⟩ | listed
      · rcases slot?_id hb with ⟨d, hd, dk, namedB⟩ | listed
        · rw [← sound.eq_of_key hc hd ck dk] at namedB
          rw [← sameName_left namedA b]
          exact namedB
        · rw [plainB] at listed
          cases listed
      · rw [plainA] at listed
        cases listed

/-- What a new row holds in a slot for which it is given a cell: the cell as the column stores it, but
the next id where the id is to be null. -/
def Table.given (t : Table) (slot : Slot) (c : Cell) : Cell :=
  if slot = .id ∧ c = .null then .int t.nextId else c.stored (t.affinity slot)

theorem ofReal_ne_null (x : Number.Binary64) : Cell.ofReal x ≠ .null := by
  unfold Cell.ofReal
  split
  · split <;> simp
  · simp

theorem ofNumeral?_ne_null (s : String) : Cell.ofNumeral? s ≠ some .null := by
  unfold Cell.ofNumeral?
  dsimp only
  split
  · split
    · simp
    · exact fun same => ofReal_ne_null _ (Option.some.inj same)
  · split
    · simp
    · intro same
      obtain ⟨e, _, null⟩ := Option.map_eq_some_iff.mp same
      exact ofReal_ne_null _ null

theorem stored_number_eq_null {c : Cell} (h : c.stored .number = .null) : c = .null := by
  cases c with
  | null => rfl
  | int n => cases h
  | real x => exact absurd h (ofReal_ne_null x)
  | text s =>
      change (Cell.ofNumeral? s).getD (.text s) = .null at h
      cases found : Cell.ofNumeral? s with
      | none =>
          rw [found] at h
          cases h
      | some d =>
          rw [found] at h
          change d = .null at h
          rw [h] at found
          exact absurd found (ofNumeral?_ne_null s)

theorem firstAssigned_of_mem {a : Assignments} (apart : (a.map (·.1)).Nodup) {slot : Slot} {c : Cell}
    (member : (slot, c) ∈ a) : firstAssigned a slot = c := by
  unfold firstAssigned
  rw [lookup_of_mem apart member]
  rfl

theorem lastAssigned?_of_mem {a : Assignments} (apart : (a.map (·.1)).Nodup) {slot : Slot} {c : Cell}
    (member : (slot, c) ∈ a) : lastAssigned? a slot = some c := by
  unfold lastAssigned?
  refine lookup_of_mem ?_ (List.mem_reverse.mpr member)
  rw [List.map_reverse]
  exact List.nodup_reverse.mpr apart

theorem read_cellsBy (t : Table) (id : Int) (cellAt : Nat → Cell) {i : Nat}
    (bound : i < t.columns.length) : (⟨id, cellsBy t cellAt⟩ : Row).read (.cell i) = cellAt i := by
  change ((List.range t.columns.length).map cellAt).getD i .null = cellAt i
  rw [List.getD_eq_getElem?_getD, List.getElem?_map, List.getElem?_range bound]
  rfl

/-- A new row in a table holds what it is given in every slot that a cell is assigned to. -/
theorem insertInto_gives {t t' : Table} {a : Assignments} (apart : (a.map (·.1)).Nodup)
    (within : ∀ i c, (Slot.cell i, c) ∈ a → i < t.columns.length) (h : insertInto t a = .ok t') :
    ∃ r, t' = { t with rows := insertRow r t.rows } ∧
      ∀ slot c, (slot, c) ∈ a → r.read slot = t.given slot c := by
  obtain ⟨id, gives, _, rfl⟩ := insertInto_ok h
  refine ⟨⟨id, cellsBy t (newCell t a)⟩, rfl, ?_⟩
  intro slot c member
  unfold Table.given
  cases slot with
  | cell i =>
      rw [if_neg (by simp), read_cellsBy t id _ (within i c member)]
      unfold newCell
      rw [firstAssigned_of_mem apart member]
  | id =>
      have assigned := lastAssigned?_of_mem apart member
      rcases gives with named | ⟨unnamed, rfl⟩
      · rw [assigned] at named
        have given : c ≠ .null := by
          rintro rfl
          cases named
        rw [if_neg (by simp [given])]
        exact named.symm
      · rw [assigned] at unnamed
        rw [if_pos ⟨rfl, stored_number_eq_null unnamed⟩]
        rfl

theorem Statement.makeInsert_eq {table : String} {columns : Columns} {statement : Statement}
    (h : Statement.makeInsert table columns = .ok statement) :
    statement = .insert table columns := by
  obtain ⟨_, _, h⟩ := except_bind_ok h
  obtain ⟨_, _, h⟩ := except_bind_ok h
  exact (Except.ok.inj h).symm

theorem Statement.makeUpdate_eq {table : String} {sets : Columns}
    {conditions : List (String × Value)} {statement : Statement}
    (h : Statement.makeUpdate table sets conditions = .ok statement) :
    statement = .update table sets conditions := by
  obtain ⟨_, _, h⟩ := except_bind_ok h
  obtain ⟨_, _, h⟩ := except_bind_ok h
  obtain ⟨_, _, h⟩ := except_bind_ok h
  exact (Except.ok.inj h).symm

theorem mem_left_of_forall₂ {α β : Type} {R : α → β → Prop} {xs : List α} {ys : List β}
    (h : List.Forall₂ R xs ys) {x : α} (member : x ∈ xs) : ∃ y ∈ ys, R x y := by
  induction h with
  | nil => cases member
  | cons here _ ih =>
      rcases List.mem_cons.mp member with rfl | later
      · exact ⟨_, List.mem_cons_self, here⟩
      · obtain ⟨y, inside, related⟩ := ih later
        exact ⟨y, List.mem_cons_of_mem _ inside, related⟩

theorem mem_right_of_forall₂ {α β : Type} {R : α → β → Prop} {xs : List α} {ys : List β}
    (h : List.Forall₂ R xs ys) {y : β} (member : y ∈ ys) : ∃ x ∈ xs, R x y :=
  mem_left_of_forall₂ h.flip member

theorem execute_ok {s s' : Store} {statement : Statement} {affected : Nat}
    (h : execute s statement = .ok (s', affected)) :
    ∃ t a conditions t', prepare s statement = .ok (t, a, conditions) ∧
      perform s t a conditions statement = .ok (t', affected) ∧ s' = s.replaceTable t' := by
  unfold execute at h
  split at h
  · cases h
  · split at h
    · cases h
    · rename_i t a conditions prepared
      split at h
      · cases h
      · split at h
        · cases h
        · rename_i t' n performed
          cases h
          exact ⟨t, a, conditions, t', prepared, performed, rfl⟩

theorem slots_ok {t : Table} {unknown : String → StoreFault} {columns : List (String × Value)}
    {a : Assignments} (h : slots t unknown columns = .ok a) :
    List.Forall₂ (fun c p => t.slot? (bare c.1) = some p.1 ∧ p.2 = bind c.2) columns a := by
  induction columns generalizing a with
  | nil =>
      cases h
      exact .nil
  | cons c rest ih =>
      obtain ⟨name, value⟩ := c
      rw [slots] at h
      split at h
      · cases h
      · rename_i slot leads
        obtain ⟨others, rest, done⟩ := except_bind_ok h
        cases done
        exact .cons ⟨leads, rfl⟩ (ih rest)

theorem execute_insert_ok {s s' : Store} {table : String} {columns : Columns} {affected : Nat}
    (h : execute s (.insert table columns) = .ok (s', affected)) :
    affected = 1 ∧ ∃ t a t', s.table? (bare table) = some t ∧
      List.Forall₂ (fun c p => t.slot? (bare c.1) = some p.1 ∧ p.2 = bind c.2) columns a ∧
      insertInto t a = .ok t' ∧ s' = s.replaceTable t' := by
  obtain ⟨t, a, conditions, t', prepared, performed, rfl⟩ := execute_ok h
  unfold prepare at prepared
  obtain ⟨_, _, prepared⟩ := except_bind_ok prepared
  dsimp only at prepared
  split at prepared
  · cases prepared
  · rename_i u found
    obtain ⟨b, placed, prepared⟩ := except_bind_ok prepared
    cases prepared
    rw [perform] at performed
    obtain ⟨made, inserted, performed⟩ := except_bind_ok performed
    split at performed
    · cases performed
      exact ⟨rfl, _, _, _, found, slots_ok placed, inserted, rfl⟩
    · cases performed

def Table.Gives (t : Table) (r : Row) (name : String) (v : Value) : Prop :=
  ∃ slot, t.slot? name = some slot ∧ r.read slot = t.given slot (bind v)

/-- Names that may not mean the id of every table lead to different slots where they differ. -/
theorem slots_nodup {t : Table} (sound : t.WellFormed) {columns : Columns} {a : Assignments}
    (distinct : columns.names.Pairwise fun m n => sameName m n = false)
    (named : ∀ n ∈ columns.names, bare n = n ∧ isIdName n = false)
    (placed : List.Forall₂ (fun c p => t.slot? (bare c.1) = some p.1 ∧ p.2 = bind c.2) columns a) :
    (a.map (·.1)).Nodup := by
  induction placed with
  | nil => exact List.nodup_nil
  | cons here placed ih =>
      obtain ⟨differ, distinct⟩ := List.pairwise_cons.mp distinct
      obtain ⟨itself, unlisted⟩ := named _ List.mem_cons_self
      refine List.nodup_cons.mpr ⟨?_, ih distinct fun n later => named n (List.mem_cons_of_mem _ later)⟩
      intro again
      obtain ⟨p, member, same⟩ := List.mem_map.mp again
      obtain ⟨c, inside, leads, _⟩ := mem_right_of_forall₂ placed member
      have later : c.1 ∈ Columns.names _ := List.mem_map.mpr ⟨c, inside, rfl⟩
      obtain ⟨alone, free⟩ := named c.1 (List.mem_cons_of_mem _ later)
      have first := here.1
      rw [itself] at first
      change p.1 = _ at same
      rw [same] at leads
      rw [alone] at leads
      have agree := sound.sameName_of_slot first leads unlisted free
      rw [differ c.1 later] at agree
      cases agree

/-- An insertion under different names adds a row that has under each of them what is stored for its
value. -/
theorem execute_insert_gives {s s' : Store} {table : String} {columns : Columns} {affected : Nat}
    (sound : s.WellFormed) (distinct : columns.names.Pairwise fun m n => sameName m n = false)
    (named : ∀ n ∈ columns.names, bare n = n ∧ isIdName n = false)
    (h : execute s (.insert table columns) = .ok (s', affected)) :
    ∃ t r, s.table? (bare table) = some t ∧
      s' = s.replaceTable { t with rows := insertRow r t.rows } ∧
      ∀ c ∈ columns, t.Gives r c.1 c.2 := by
  obtain ⟨_, t, a, t', found, placed, inserted, rfl⟩ := execute_insert_ok h
  have filled := sound.tables t (table?_some found).1
  have within : ∀ i c, (Slot.cell i, c) ∈ a → i < t.columns.length := by
    intro i c member
    obtain ⟨_, _, leads, _⟩ := mem_right_of_forall₂ placed member
    obtain ⟨_, there, _⟩ := slot?_cell leads
    exact (List.getElem?_eq_some_iff.mp there).1
  obtain ⟨r, rfl, given⟩ :=
    insertInto_gives (slots_nodup filled distinct named placed) within inserted
  refine ⟨t, r, found, rfl, ?_⟩
  intro c member
  obtain ⟨p, assigned, leads, bound⟩ := mem_left_of_forall₂ placed member
  rw [(named c.1 (List.mem_map.mpr ⟨c, member, rfl⟩)).1] at leads
  refine ⟨p.1, leads, ?_⟩
  rw [← bound]
  exact given p.1 p.2 assigned

theorem prepare_update_ok {s : Store} {table : String} {sets : Columns}
    {conditions : List (String × Value)} {t : Table} {a : Assignments} {c : Conditions}
    (h : prepare s (.update table sets conditions) = .ok (t, a, c)) :
    s.table? (bare table) = some t ∧ slots t .noSuchColumn sets = .ok a ∧
      conditionsOf t s.now (conditions.map fun c => (c.1, bind c.2)) = .ok c := by
  unfold prepare at h
  obtain ⟨_, _, h⟩ := except_bind_ok h
  dsimp only at h
  split at h
  · cases h
  · rename_i u found
    obtain ⟨b, placed, h⟩ := except_bind_ok h
    obtain ⟨d, conditioned, h⟩ := except_bind_ok h
    cases h
    exact ⟨found, placed, conditioned⟩

theorem execute_update_ok {s s' : Store} {table : String} {sets : Columns}
    {conditions : List (String × Value)} {affected : Nat}
    (h : execute s (.update table sets conditions) = .ok (s', affected)) :
    ∃ t a c t', s.table? (bare table) = some t ∧
      List.Forall₂ (fun c p => t.slot? (bare c.1) = some p.1 ∧ p.2 = bind c.2) sets a ∧
      conditionsOf t s.now (conditions.map fun c => (c.1, bind c.2)) = .ok c ∧
      updateIn t a c = .ok (t', affected) ∧ s' = s.replaceTable t' := by
  obtain ⟨t, a, c, t', prepared, performed, rfl⟩ := execute_ok h
  obtain ⟨found, placed, conditioned⟩ := prepare_update_ok prepared
  rw [perform] at performed
  obtain ⟨⟨made, n⟩, updated, performed⟩ := except_bind_ok performed
  dsimp only at performed
  split at performed
  · cases performed
    exact ⟨t, a, c, t', found, slots_ok placed, conditioned, updated, rfl⟩
  · cases performed

theorem execute_now {s s' : Store} {statement : Statement} {affected : Nat}
    (h : execute s statement = .ok (s', affected)) : s'.now = s.now := by
  obtain ⟨_, _, _, _, _, _, rfl⟩ := execute_ok h
  rfl

theorem execute_wellFormed {s s' : Store} {statement : Statement} {affected : Nat}
    (sound : s.WellFormed) (h : execute s statement = .ok (s', affected)) : s'.WellFormed := by
  cases statement with
  | insert table columns =>
      obtain ⟨_, t, a, t', found, _, inserted, rfl⟩ := execute_insert_ok h
      have filled := insertInto_wellFormed (sound.tables t (table?_some found).1) inserted
      obtain ⟨id, _, _, rfl⟩ := insertInto_ok inserted
      exact sound.replaceTable found rfl rfl filled
  | update table sets conditions =>
      obtain ⟨t, a, c, t', found, _, _, updated, rfl⟩ := execute_update_ok h
      have filled := updateIn_wellFormed (sound.tables t (table?_some found).1) updated
      obtain ⟨named, columns⟩ := updateIn_same updated
      exact sound.replaceTable found named columns filled

end RowLoader.Store
