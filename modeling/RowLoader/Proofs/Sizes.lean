import RowLoader.Proofs.Insertion
import RowLoader.Proofs.PickedRows

/-!
How many rows a table has. An insertion adds one to its table; no update adds a row or takes one away,
also where it moves a row to another id, and a key that is handed out does not either.
-/

namespace RowLoader.Store

open RowLoader.Dictionary RowLoader.Text RowLoader.Identifier

theorem rowsOf_of_table? {s : Store} {name : String} {t : Table} (found : s.table? name = some t) :
    rowsOf s name = t.rows := by
  unfold rowsOf
  rw [found]
  rfl

theorem table?_replaceTable_beside {s : Store} {table : String} {t t' : Table}
    (found : s.table? table = some t) (named : t'.name = t.name) {name : String}
    (other : sameName table name = false) : (s.replaceTable t').table? name = s.table? name := by
  refine table?_replaceTable_of_ne s ?_
  rw [named, sameName_left (table?_some found).2 name, other]

theorem length_rowsOf_replaceTable {s : Store} {table : String} {t t' : Table} {n : Nat}
    (found : s.table? table = some t) (named : t'.name = t.name)
    (more : t'.rows.length = t.rows.length + n) (name : String) :
    (rowsOf (s.replaceTable t') name).length =
      (rowsOf s name).length + if sameName table name then n else 0 := by
  cases here : sameName table name with
  | true =>
      have before : s.table? name = some t := (table?_congr here).symm.trans found
      rw [rowsOf_of_table? before, rowsOf_of_table? (table?_replaceTable_self before named), more,
        if_pos rfl]
  | false =>
      unfold rowsOf
      rw [table?_replaceTable_beside found named here, if_neg Bool.false_ne_true, Nat.add_zero]

theorem length_insertRow (r : Row) (rows : List Row) :
    (insertRow r rows).length = rows.length + 1 :=
  (insertRow_perm r rows).length_eq

/-- Of rows with different ids one goes where an id is left out. -/
theorem length_movedRows {t : Table} (sound : t.WellFormed) (a : Assignments) (id : Int) {r : Row}
    (member : r ∈ t.rows) : (movedRows t a id r).length = t.rows.length := by
  have distinct : t.rows.Nodup := sound.ids.imp fun {q p} less same => by
    rw [same] at less
    exact lt_irrefl _ less
  have left : (t.rows.filter fun q => q.id ≠ r.id) = t.rows.erase r := by
    rw [distinct.erase_eq_filter]
    refine List.filter_congr ?_
    intro q inside
    rw [Bool.eq_iff_iff, decide_eq_true_iff, bne_iff_ne]
    exact not_congr ⟨fun same => sound.eq_of_id inside member same, fun same => same ▸ rfl⟩
  unfold movedRows
  rw [length_insertRow, left, List.length_erase_of_mem member]
  exact Nat.succ_pred_eq_of_pos (List.length_pos_of_mem member)

theorem length_updateIn {t t' : Table} {a : Assignments} {conditions : Conditions} {affected : Nat}
    (sound : t.WellFormed) (h : updateIn t a conditions = .ok (t', affected)) :
    t'.rows.length = t.rows.length := by
  obtain ⟨_, ⟨_, rfl⟩ | ⟨_, rfl⟩ | ⟨id, r, _, picked, _, rfl⟩⟩ := updateIn_ok h
  · rfl
  · exact List.length_map _
  · refine length_movedRows sound a id ?_
    have inside : r ∈ t.select conditions := by
      rw [picked]
      exact List.mem_cons_self
    exact (List.mem_filter.mp inside).1

/-- A store has as many rows in every table as another one, but more by a number in one table. -/
def Sized (table : String) (n : Nat) (s s' : Store) : Prop :=
  ∀ name, (rowsOf s' name).length =
    (rowsOf s name).length + if sameName (bare table) name then n else 0

theorem Sized.refl (table : String) (s : Store) : Sized table 0 s s := by
  intro name
  rw [ite_self, Nat.add_zero]

theorem Sized.trans {table : String} {m n : Nat} {s t u : Store} (first : Sized table m s t)
    (second : Sized table n t u) : Sized table (m + n) s u := by
  intro name
  rw [second name, first name]
  split <;> omega

theorem execute_update_sized {s s' : Store} {table : String} {sets : Columns}
    {conditions : List (String × Value)} {affected : Nat} (sound : s.WellFormed)
    (h : execute s (.update table sets conditions) = .ok (s', affected)) : Sized table 0 s s' := by
  obtain ⟨t, a, c, t', found, _, _, updated, rfl⟩ := execute_update_ok h
  exact length_rowsOf_replaceTable found (updateIn_same updated).1
    (length_updateIn (sound.tables t (table?_some found).1) updated)

theorem execute_insert_sized {s s' : Store} {table : String} {columns : Columns} {affected : Nat}
    (h : execute s (.insert table columns) = .ok (s', affected)) : Sized table 1 s s' := by
  obtain ⟨_, t, a, t', found, _, inserted, rfl⟩ := execute_insert_ok h
  obtain ⟨id, _, _, rfl⟩ := insertInto_ok inserted
  exact length_rowsOf_replaceTable found rfl (length_insertRow _ _)

theorem nextKey_sized {s s' : Store} (sound : s.WellFormed) {table : String} {key : Value}
    (h : nextKey s table = .ok (some key, s')) (target : String) : Sized target 0 s s' := by
  obtain ⟨q, found, shape⟩ := sequences_of_wellFormed sound
  obtain ⟨r, next, _, _, _, rfl⟩ := nextKey_ok found shape h
  intro name
  have named : (withNext q r.id (next.stored .number)).name = q.name := rfl
  have same : (withNext q r.id (next.stored .number)).rows.length = q.rows.length + 0 :=
    List.length_map _
  rw [length_rowsOf_replaceTable found named same, ite_self, ite_self]

end RowLoader.Store
