import RowLoader.Proofs.Changes

/-!
The rows that a value picks under a name. They hold a cell that equals the value as the column keeps it,
an update for the value changes no others, and one that leaves the name and the ids alone retains what
every row holds under it.
-/

namespace RowLoader.Store

open RowLoader.Dictionary RowLoader.Text RowLoader.Identifier

/-- A cell is written as some text: a text as it is, an integer by its digits, a real that is no integer
by the fewest digits. -/
def WrittenAs : Cell → String → Prop
  | .text t, s => t = s
  | .int n, s => Number.intText n = s
  | .real x, s => x.toInt? = none ∧ x.text = s
  | .null, _ => False

theorem eq_of_sameNumber {x y : Number.Binary64} (broken : y.toInt? = none)
    (same : x.sameNumber y = true) : x = y := by
  unfold Number.Binary64.sameNumber at same
  split at same
  · simp [Number.Binary64.toInt?] at broken
  · cases same
  · exact eq_of_beq same

def reduced : Cell → Cell
  | .real x => (x.toInt?.map .int).getD (.real x)
  | c => c

/-- Only one cell among those that a given one equals is written as a text. -/
theorem eq_reduced_of_same {held c : Cell} {s : String} (same : held.same c = true)
    (written : WrittenAs c s) : c = reduced held := by
  cases held with
  | null => cases c <;> cases same
  | text t =>
      cases c with
      | text u => exact congrArg Cell.text (eq_of_beq same).symm
      | null => cases same
      | int m => cases same
      | real y => cases same
  | int n =>
      cases c with
      | int m => exact congrArg Cell.int (eq_of_beq same).symm
      | real y =>
          have whole : y.toInt? = some n := eq_of_beq same
          rw [written.1] at whole
          cases whole
      | null => cases same
      | text u => cases same
  | real x =>
      cases c with
      | int m =>
          have whole : x.toInt? = some m := eq_of_beq same
          rw [reduced, whole]
          rfl
      | real y =>
          -- no zero is written, so equal reals are one
          have broken : y.toInt? = none := written.1
          rw [eq_of_sameNumber broken same, reduced, broken]
          rfl
      | null => cases same
      | text u => cases same

theorem written_unique {c : Cell} {s s' : String} (written : WrittenAs c s)
    (other : WrittenAs c s') : s = s' := by
  cases c with
  | null => cases written
  | text t => exact written.symm.trans other
  | int n => exact written.symm.trans other
  | real x => exact written.2.symm.trans other.2

theorem eq_of_same_written {held c d : Cell} {s s' : String} (first : held.same c = true)
    (second : held.same d = true) (written : WrittenAs c s) (other : WrittenAs d s') : s = s' := by
  rw [eq_reduced_of_same first written] at written
  rw [eq_reduced_of_same second other] at other
  exact written_unique written other

theorem reduced_of_written {c : Cell} {s : String} (written : WrittenAs c s) : reduced c = c := by
  cases c with
  | real x =>
      have broken : x.toInt? = none := written.1
      rw [reduced, broken]
      rfl
  | null => rfl
  | text t => rfl
  | int n => rfl

theorem not_same_of_written {c d : Cell} {s s' : String} (written : WrittenAs c s)
    (other : WrittenAs d s') (apart : s ≠ s') : c.same d = false := by
  rw [Bool.eq_false_iff]
  intro same
  rw [eq_reduced_of_same same other, reduced_of_written written] at other
  exact apart (written_unique written other)

/-- What a row holds under a name: the cell of its column, or what the word means elsewhere. -/
def heldUnder (t : Table) (name : String) (r : Row) : Cell :=
  match t.slot? (bare name) with
  | some slot => r.read slot
  | none => (constant? name).getD .null

/-- What a value is compared as under a name: as its column stores it. -/
def comparedAs (t : Table) (name : String) (v : Value) : Cell :=
  match t.slot? (bare name) with
  | some slot => (bind v).stored (t.affinity slot)
  | none => bind v

section

variable {t : Table} {name : String}

theorem heldUnder_of_slot {slot : Slot} (leads : t.slot? (bare name) = some slot) (r : Row) :
    heldUnder t name r = r.read slot := by
  unfold heldUnder
  rw [leads]

theorem comparedAs_of_slot {slot : Slot} (leads : t.slot? (bare name) = some slot) (v : Value) :
    comparedAs t name v = (bind v).stored (t.affinity slot) := by
  unfold comparedAs
  rw [leads]

theorem comparedAs_of_word (leads : t.slot? (bare name) = none) (v : Value) :
    comparedAs t name v = bind v := by
  unfold comparedAs
  rw [leads]

theorem comparedAs_of_bind {v w : Value} (same : bind v = bind w) :
    comparedAs t name v = comparedAs t name w := by
  unfold comparedAs
  rw [same]

end

theorem meets_eq_picks {t : Table} {now : Calendar.Timestamp} {name : String} {v : Value}
    {conditions : Conditions} (made : conditionsOf t now [(name, bind v)] = .ok conditions)
    (r : Row) : t.meets conditions r = picks t now name v r :=
  (@meets_conditionsOf t now [(name, v)] conditions made r).trans (Bool.and_true _)

/-- Besides null and the present moment, a value picks the rows that hold an equal cell under the name. -/
theorem picks_eq_same {t : Table} {name : String}
    (worded : isAmong ("NULL" :: clockWords) name = false) (now : Calendar.Timestamp) (v : Value)
    (r : Row) : picks t now name v r = (heldUnder t name r).same (comparedAs t name v) := by
  unfold picks Table.operand? heldUnder comparedAs
  rw [literal?_eq_none worded]
  cases t.slot? (bare name) with
  | some slot => rfl
  | none => cases constant? name <;> rfl

theorem picks_congr {t u : Table} (columns : u.columns = t.columns) (now : Calendar.Timestamp)
    (name : String) (v : Value) {q r : Row} (held : heldUnder t name q = heldUnder t name r) :
    picks t now name v q = picks u now name v r := by
  unfold picks
  rw [operand?_congr columns]
  cases means : t.operand? now name with
  | none => rfl
  | some operand =>
      cases operand with
      | held slot =>
          have leads := slot?_of_operand? means
          rw [heldUnder_of_slot leads, heldUnder_of_slot leads] at held
          unfold Option.any Operand.equals Table.affinity
          dsimp only
          rw [held, columns]
      | fixed c => rfl

theorem bind_of_same_text {s : String} {c : Cell} (same : (Cell.text s).same c = true) :
    c = .text s := by
  cases c with
  | text u => exact congrArg Cell.text (eq_of_beq same).symm
  | null | int n | real x => cases same

/-- Of values that pick one row under a name, no two are compared as cells that are written
differently. -/
theorem eq_of_picks_written {t : Table} {now : Calendar.Timestamp} {name : String} {v w : Value}
    {r : Row} (first : picks t now name v r = true) (second : picks t now name w r = true)
    {s s' : String} (written : WrittenAs (comparedAs t name v) s)
    (other : WrittenAs (comparedAs t name w) s') : s = s' := by
  unfold picks Table.operand? at first second
  cases hidden : literal? now name with
  | some c =>
      rw [hidden] at first second
      -- a word that hides a column is null, or a text and then the values are that text
      rcases literal?_some hidden with rfl | ⟨text, rfl⟩
      · cases v <;> cases first
      · have same := (bind_of_same_text first).trans (bind_of_same_text second).symm
        rw [comparedAs_of_bind same] at written
        exact written_unique written other
  | none =>
      rw [hidden] at first second
      cases leads : t.slot? (bare name) with
      | some slot =>
          rw [leads] at first second
          rw [comparedAs_of_slot leads] at written other
          exact eq_of_same_written first second written other
      | none =>
          rw [leads] at first second
          rw [comparedAs_of_word leads] at written other
          cases means : constant? name with
          | none =>
              rw [means] at first
              cases first
          | some word =>
              rw [means] at first second
              exact eq_of_same_written first second written other

def rowsMet (s : Store) (table name : String) (v : Value) : List Row :=
  ((s.table? (bare table)).bind fun t =>
    (conditionsOf t s.now [(name, bind v)]).toOption.map t.select).getD []

theorem rowsMet_eq {s : Store} {table name : String} {v : Value} {t : Table} {conditions : Conditions}
    (found : s.table? (bare table) = some t)
    (made : conditionsOf t s.now [(name, bind v)] = .ok conditions) :
    rowsMet s table name v = t.select conditions := by
  unfold rowsMet
  rw [found, Option.bind_some, made]
  rfl

theorem picks_of_mem_rowsMet {s : Store} {table name : String} {v : Value} {r : Row}
    (member : r ∈ rowsMet s table name v) : ∃ t, s.table? (bare table) = some t ∧ r ∈ t.rows ∧
      picks t s.now name v r = true := by
  unfold rowsMet at member
  cases found : s.table? (bare table) with
  | none => simp [found] at member
  | some t =>
      cases made : conditionsOf t s.now [(name, bind v)] with
      | error e => simp [found, made, Except.toOption] at member
      | ok conditions =>
          simp only [found, made, Except.toOption, Option.bind_some, Option.map_some,
            Option.getD_some, Table.select, List.mem_filter] at member
          exact ⟨t, rfl, member.1, (meets_eq_picks made r).symm.trans member.2⟩

theorem wellFormed_tableAt {s : Store} (sound : s.WellFormed) (name : String) :
    (s.tableAt name).WellFormed := by
  unfold tableAt
  cases found : s.table? name with
  | none => exact ⟨.nil, .nil, .nil, fun r member => absurd member List.not_mem_nil⟩
  | some t => exact sound.tables t (table?_some found).1

/-- Every row of a table has the id of a row that the table had before, and holds the same under a
name. -/
structure Retains (name : String) (t t' : Table) : Prop where
  columns : t'.columns = t.columns
  rows : ∀ r ∈ t'.rows, ∃ q ∈ t.rows, q.id = r.id ∧ heldUnder t name q = heldUnder t name r

variable {name : String} {t u v : Table}

theorem Retains.refl (name : String) (t : Table) : Retains name t t :=
  ⟨rfl, fun r member => ⟨r, member, rfl, rfl⟩⟩

theorem heldUnder_congr (columns : u.columns = t.columns) (name : String) (r : Row) :
    heldUnder u name r = heldUnder t name r := by
  unfold heldUnder
  rw [slot?_congr columns]

theorem Retains.trans (first : Retains name t u) (second : Retains name u v) :
    Retains name t v := by
  refine ⟨second.columns.trans first.columns, ?_⟩
  intro r member
  obtain ⟨q, inside, same, held⟩ := second.rows r member
  obtain ⟨p, before, alike, kept⟩ := first.rows q inside
  rw [heldUnder_congr first.columns, heldUnder_congr first.columns] at held
  exact ⟨p, before, alike.trans same, kept.trans held⟩

/-- Names that lead neither to the id of a table nor to where another name leads. -/
def LeavesAlone (t : Table) (name : String) (names : List String) : Prop :=
  ∀ slot ∈ slotsOf t names, slot ≠ .id ∧ t.slot? (bare name) ≠ some slot

instance (t : Table) (name : String) (names : List String) : Decidable (LeavesAlone t name names) :=
  inferInstanceAs (Decidable (∀ slot ∈ slotsOf t names, slot ≠ .id ∧ t.slot? (bare name) ≠ some slot))

theorem LeavesAlone.mono {names more : List String} (free : LeavesAlone t name more)
    (within : ∀ n ∈ names, n ∈ more) : LeavesAlone t name names := by
  intro slot member
  obtain ⟨n, named, leads⟩ := mem_slotsOf.mp member
  exact free slot (mem_slotsOf.mpr ⟨n, within n named, leads⟩)

theorem LeavesAlone.congr {names : List String} (free : LeavesAlone t name names)
    (columns : u.columns = t.columns) : LeavesAlone u name names := by
  intro slot member
  obtain ⟨n, named, leads⟩ := mem_slotsOf.mp member
  rw [slot?_congr columns] at leads ⊢
  exact free slot (mem_slotsOf.mpr ⟨n, named, leads⟩)

theorem heldUnder_assignRow {a : Assignments}
    (free : ∀ slot ∈ a.map (·.1), slot ≠ .id ∧ t.slot? (bare name) ≠ some slot) (r : Row) :
    heldUnder t name (assignRow t a r) = heldUnder t name r := by
  unfold heldUnder
  cases leads : t.slot? (bare name) with
  | none => rfl
  | some slot =>
      cases slot with
      | id => rfl
      | cell i =>
          obtain ⟨_, there, _⟩ := slot?_cell leads
          refine (keeps_assignRow t a).cells i (List.getElem?_eq_some_iff.mp there).1 ?_ r
          intro assigned
          exact (free _ assigned).2 leads

theorem updateIn_retains {t' : Table} {a : Assignments} {conditions : Conditions} {affected : Nat}
    (free : ∀ slot ∈ a.map (·.1), slot ≠ .id ∧ t.slot? (bare name) ≠ some slot)
    (h : updateIn t a conditions = .ok (t', affected)) : Retains name t t' := by
  obtain ⟨_, ⟨_, rfl⟩ | ⟨_, rfl⟩ | ⟨id, r, moved, _⟩⟩ := updateIn_ok h
  · exact .refl name _
  · refine ⟨rfl, ?_⟩
    intro r member
    obtain ⟨q, inside, rfl⟩ := List.mem_map.mp member
    refine ⟨q, inside, ?_⟩
    split
    · exact ⟨rfl, (heldUnder_assignRow free q).symm⟩
    · exact ⟨rfl, rfl⟩
  · -- a row is moved only where its id is assigned
    have unmoved : setId? a = none := by
      unfold setId?
      rw [Option.map_eq_none_iff, lastAssigned?_eq_none]
      intro assigned
      exact (free _ assigned).1 rfl
    rw [unmoved] at moved
    cases moved

theorem filter_beside_picked (sound : t.WellFormed) {conditions : Conditions} {q : Row}
    (picked : t.select conditions = [q]) :
    t.rows.filter (fun r => r.id ≠ q.id) = t.rows.filter fun r => !t.meets conditions r := by
  have alone : ∀ {r : Row}, r ∈ t.rows ∧ t.meets conditions r = true ↔ r = q := by
    intro r
    have rows : t.rows.filter (t.meets conditions) = [q] := picked
    rw [← List.mem_filter, rows, List.mem_singleton]
  obtain ⟨there, met⟩ := alone.mpr rfl
  refine List.filter_congr fun r member => ?_
  by_cases same : r.id = q.id
  · rw [sound.eq_of_id member there same, met]
    simp
  · have unmet : t.meets conditions r = false :=
      (Bool.not_eq_true _).mp fun passed => same (congrArg Row.id (alone.mp ⟨member, passed⟩))
    rw [unmet]
    simpa using same

theorem updateIn_others {t' : Table} {a : Assignments} {conditions : Conditions} {affected : Nat}
    (sound : t.WellFormed) (h : updateIn t a conditions = .ok (t', affected)) {r : Row}
    (member : r ∈ t.rows) (other : r ∉ t.select conditions) : r ∈ t'.rows := by
  have unmet : ¬ t.meets conditions r = true :=
    fun met => other (List.mem_filter.mpr ⟨member, met⟩)
  obtain ⟨_, ⟨_, rfl⟩ | ⟨_, rfl⟩ | ⟨id, q, _, picked, _, rfl⟩⟩ := updateIn_ok h
  · exact member
  · exact List.mem_map.mpr ⟨r, member, if_neg unmet⟩
  · refine mem_insertRow.mpr (.inr ?_)
    rw [filter_beside_picked sound picked]
    exact List.mem_filter.mpr ⟨member, by simpa using unmet⟩

/-- An update by one name changes no rows but those that the value picks, and tells how many they are. -/
theorem execute_update_rowsMet {s s' : Store} {table : String} {sets : Columns} {w : Value}
    {affected : Nat} (sound : s.WellFormed)
    (h : execute s (.update table sets [(name, w)]) = .ok (s', affected)) :
    affected = (rowsMet s table name w).length ∧
      ∀ r ∈ rowsOf s (bare table), r ∉ rowsMet s table name w → r ∈ rowsOf s' (bare table) := by
  obtain ⟨t, a, conditions, t', found, _, conditioned, updated, rfl⟩ := execute_update_ok h
  rw [rowsMet_eq found conditioned]
  refine ⟨(updateIn_ok updated).1, ?_⟩
  unfold rowsOf
  rw [found, table?_replaceTable_self found (updateIn_same updated).1]
  exact fun r member other =>
    updateIn_others (sound.tables t (table?_some found).1) updated member other

theorem execute_update_retains {s s' : Store} {table : String} {sets : Columns}
    {conditions : List (String × Value)} {affected : Nat}
    (h : execute s (.update table sets conditions) = .ok (s', affected)) :
    ∃ t t', s.table? (bare table) = some t ∧ s'.table? (bare table) = some t' ∧
      (LeavesAlone t name sets.names → Retains name t t') := by
  obtain ⟨t, a, c, t', found, placed, _, updated, rfl⟩ := execute_update_ok h
  exact ⟨t, t', found, table?_replaceTable_self found (updateIn_same updated).1,
    fun free => updateIn_retains
      (fun slot assigned => free slot (fst_of_placed placed ▸ assigned)) updated⟩

end RowLoader.Store
