import RowLoader.Proofs.KeyedRecords
import RowLoader.Proofs.PickedRows

/-!
Rows that an update rewrites. An accepted update changes just the rows that equal the values of its
conditions, and in them just the places of the names that it sets: these hold what is stored for their
values. Moved rows are put in again under their new id, so that the rows are told up to their order.
-/

namespace RowLoader

open RowLoader.Header RowLoader.Store RowLoader.Text RowLoader.Identifier

theorem map_ite_perm {α : Type} (p : α → Bool) (g : α → α) (l : List α) :
    (l.map fun x => if p x then g x else x).Perm
      ((l.filter p).map g ++ l.filter fun x => !p x) := by
  induction l with
  | nil => exact .nil
  | cons x rest ih =>
      cases passed : p x with
      | true => simpa [passed] using ih
      | false =>
          simp only [List.map_cons, List.filter_cons, passed, Bool.false_eq_true, if_false,
            Bool.not_false, if_true]
          exact (ih.cons x).trans List.perm_middle.symm

namespace Store

/-- What a row becomes of another one in a table: under each of some names it holds what is stored for
the value of the name, and everywhere else what it held. -/
structure Rewrites (t : Table) (sets : Columns) (r r' : Row) : Prop where
  given : ∀ c ∈ sets, ∃ slot, t.slot? (bare c.1) = some slot ∧
    r'.read slot = (bind c.2).stored (t.affinity slot)
  kept : ∀ slot, slot ∉ slotsOf t sets.names → r'.read slot = r.read slot

section

variable {t : Table} {sets : Columns} {a : Assignments}
  (placed : List.Forall₂ (fun c p => t.slot? (bare c.1) = some p.1 ∧ p.2 = bind c.2) sets a)
include placed

/-- A row with assigned cells, whose id is assigned with them or stays, is rewritten, as long as no two
names lead to one slot. -/
theorem rewrites_of_assigned (sound : t.WellFormed) (single : (slotsOf t sets.names).Nodup)
    {r r' : Row} (member : r ∈ t.rows) (cells : r'.cells = (assignRow t a r).cells)
    (id : setId? a = none ∧ r'.id = r.id ∨ setId? a = some (.int r'.id)) :
    Rewrites t sets r r' := by
  have slots := fst_of_placed placed
  have read : ∀ i, r'.read (.cell i) = (assignRow t a r).read (.cell i) := by
    intro i
    unfold Row.read
    rw [cells]
  constructor
  · intro c set
    obtain ⟨p, assigned, leads, bound⟩ := mem_left_of_forall₂ placed set
    have last := lastAssigned?_of_mem (slots ▸ single) (show (p.1, p.2) ∈ a from assigned)
    refine ⟨p.1, leads, ?_⟩
    rw [← bound]
    cases shown : p.1 with
    | id =>
        rw [shown] at last
        unfold setId? at id
        rw [last] at id
        rcases id with ⟨unset, _⟩ | moved
        · cases unset
        · exact (Option.some.inj moved).symm
    | cell i =>
        rw [shown] at last leads
        obtain ⟨_, there, _⟩ := slot?_cell leads
        rw [read, read_assignRow (List.getElem?_eq_some_iff.mp there).1, setCell?, last]
        rfl
  · intro slot free
    rw [← slots] at free
    cases slot with
    | id =>
        have unset : setId? a = none := by
          unfold setId?
          rw [lastAssigned?_eq_none.mpr free]
          rfl
        rcases id with ⟨_, same⟩ | moved
        · exact congrArg Cell.int same
        · rw [unset] at moved
          cases moved
    | cell i =>
        rw [read]
        by_cases bound : i < t.columns.length
        · exact (keeps_assignRow t a).cells i bound free r
        · -- behind the last column every row is read as null
          have width : (assignRow t a r).cells.length = t.columns.length := by
            simp [assignRow, cellsBy]
          have short := sound.cells r member
          unfold Row.read
          simp only [List.getD_eq_getElem?_getD]
          rw [List.getElem?_eq_none (by omega), List.getElem?_eq_none (by omega)]

theorem updateIn_rewrites (sound : t.WellFormed) (single : (slotsOf t sets.names).Nodup)
    {t' : Table} {conditions : Conditions} {affected : Nat}
    (h : updateIn t a conditions = .ok (t', affected)) :
    ∃ rows, ∃ g : Row → Row, t' = { t with rows } ∧
      rows.Perm (t.rows.map fun r => if t.meets conditions r then g r else r) ∧
      ∀ r ∈ t.rows, t.meets conditions r = true → Rewrites t sets r (g r) := by
  obtain ⟨_, ⟨none, rfl⟩ | ⟨unset, rfl⟩ | ⟨id, r, moved, picked, _, rfl⟩⟩ := updateIn_ok h
  · refine ⟨t'.rows, fun r => r, rfl, by simp, fun r member met => ?_⟩
    exact absurd met (List.filter_eq_nil_iff.mp none r member)
  · exact ⟨_, assignRow t a, rfl, .refl _, fun r member _ =>
      rewrites_of_assigned placed sound single member rfl (.inl ⟨unset, rfl⟩)⟩
  · refine ⟨_, fun r => { assignRow t a r with id := id }, rfl, ?_, fun q member _ =>
      rewrites_of_assigned placed sound single member rfl (.inr moved)⟩
    refine ((insertRow_perm _ _).trans ?_).trans (map_ite_perm _ _ _).symm
    rw [filter_beside_picked sound picked]
    have alone : t.rows.filter (t.meets conditions) = [r] := picked
    rw [alone]
    exact .refl _

end

def equalsAll (t : Table) (named : List (String × Value)) (r : Row) : Bool :=
  named.all fun c => (heldUnder t c.1 r).same (comparedAs t c.1 c.2)

theorem meets_eq_equalsAll {t : Table} {now : Calendar.Timestamp} {named : List (String × Value)}
    (worded : ∀ c ∈ named, isAmong ("NULL" :: clockWords) c.1 = false) {conditions : Conditions}
    (made : conditionsOf t now (named.map fun c => (c.1, bind c.2)) = .ok conditions) (r : Row) :
    t.meets conditions r = equalsAll t named r := by
  unfold equalsAll
  rw [meets_conditionsOf made, Bool.eq_iff_iff, List.all_eq_true, List.all_eq_true]
  refine forall₂_congr fun c member => ?_
  rw [picks_eq_same (worded c member)]

theorem select_eq_equalsAll {t : Table} {now : Calendar.Timestamp} {named : List (String × Value)}
    (worded : ∀ c ∈ named, isAmong ("NULL" :: clockWords) c.1 = false) {conditions : Conditions}
    (made : conditionsOf t now (named.map fun c => (c.1, bind c.2)) = .ok conditions) :
    t.select conditions = t.rows.filter (equalsAll t named) := by
  unfold Table.select
  rw [funext (meets_eq_equalsAll worded made)]

/-- An accepted update: it tells how many rows equal the values of its conditions, rewrites these, and
leaves every other row and every other table. Where there are none it leaves the store. -/
theorem execute_update_rewrites {s s' : Store} {table : String} {sets : Columns}
    {named : List (String × Value)} {affected : Nat} (sound : s.WellFormed)
    (worded : ∀ c ∈ named, isAmong ("NULL" :: clockWords) c.1 = false)
    (single : ∀ t, s.table? (bare table) = some t → (slotsOf t sets.names).Nodup)
    (h : execute s (.update table sets named) = .ok (s', affected)) :
    ∃ t rows, ∃ g : Row → Row, s.table? (bare table) = some t ∧
      affected = (t.rows.filter (equalsAll t named)).length ∧
      (t.rows.filter (equalsAll t named) = [] → s' = s) ∧
      s'.table? (bare table) = some { t with rows } ∧
      rows.Perm (t.rows.map fun r => if equalsAll t named r then g r else r) ∧
      (∀ r ∈ t.rows, equalsAll t named r = true → Rewrites t sets r (g r)) ∧
      ∀ name, sameName (bare table) name = false → s'.table? name = s.table? name := by
  have beside : ∀ name, sameName (bare table) name = false → s'.table? name = s.table? name :=
    fun _ => Run.execute_update_table? h
  obtain ⟨t, a, conditions, t', found, placed, made, updated, rfl⟩ := execute_update_ok h
  have filled := sound.tables t (table?_some found).1
  obtain ⟨rows, g, rfl, perm, rewrites⟩ :=
    updateIn_rewrites placed filled (single t found) updated
  simp only [meets_eq_equalsAll worded made] at perm rewrites
  have counted := (updateIn_ok updated).1
  rw [select_eq_equalsAll worded made] at counted
  refine ⟨t, rows, g, found, counted, ?_, table?_replaceTable_self found rfl, perm, rewrites,
    beside⟩
  intro none
  have idle : updateIn t a conditions = .ok (t, 0) := by
    unfold updateIn
    rw [select_eq_equalsAll worded made, none]
  have same : { t with rows } = t := congrArg Prod.fst (Except.ok.inj (updated.symm.trans idle))
  rw [same]
  refine replaceTable_self fun u here => ?_
  have again : s.table? t.name = some t := (table?_congr (table?_some found).2).trans found
  exact Option.some.inj (here.symm.trans again)

end Store

end RowLoader
