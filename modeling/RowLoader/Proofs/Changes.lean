import Mathlib.Data.List.Induction
import RowLoader.Proofs.Keys
import RowLoader.Proofs.Operands

/-!
Updates one after the other. Where no condition reads a slot that is assigned, and no assigned slot tells
rows apart, an update does to a table that was updated before what it does to the table as it was: the
same rows meet its conditions, it is refused for the same reasons, and of the cells that a row is
assigned in a slot the last stays.
-/

namespace RowLoader.Store

open RowLoader.Text RowLoader.Identifier RowLoader.Dictionary

/-- A slot that tells rows apart: the id, or a column without repeated values. -/
def Table.identifies (t : Table) : Slot → Bool
  | .id => true
  | .cell i => (t.columns[i]?).any (·.unique)

/-- A map of rows that changes no cell of a table but in some slots. -/
structure Keeps (t : Table) (assigned : List Slot) (g : Row → Row) : Prop where
  id : ∀ r, (g r).id = r.id
  cells : ∀ i, i < t.columns.length → Slot.cell i ∉ assigned →
    ∀ r, (g r).read (.cell i) = r.read (.cell i)

theorem Keeps.refl (t : Table) (assigned : List Slot) : Keeps t assigned fun r => r :=
  ⟨fun _ => rfl, fun _ _ _ _ => rfl⟩

theorem Keeps.comp {t : Table} {assigned : List Slot} {g h : Row → Row} (second : Keeps t assigned h)
    (first : Keeps t assigned g) : Keeps t assigned fun r => h (g r) := by
  constructor
  · intro r
    rw [second.id, first.id]
  · intro i bound free r
    rw [second.cells i bound free, first.cells i bound free]

theorem lastAssigned?_eq_none {a : Assignments} {slot : Slot} :
    lastAssigned? a slot = none ↔ slot ∉ a.map (·.1) := by
  unfold lastAssigned?
  rw [List.lookup_eq_none_iff]
  simp only [List.mem_reverse, List.mem_map, not_exists, not_and]
  constructor
  · intro absent p member same
    have other := absent p member
    simp [same] at other
  · intro absent p member
    simpa using fun same => absent p member (Eq.symm same)

theorem setCell?_eq_none {t : Table} {a : Assignments} {i : Nat} :
    setCell? t a i = none ↔ Slot.cell i ∉ a.map (·.1) := by
  unfold setCell?
  rw [Option.map_eq_none_iff, lastAssigned?_eq_none]

theorem read_assignRow {t : Table} {i : Nat} (bound : i < t.columns.length) (a : Assignments)
    (r : Row) : (assignRow t a r).read (.cell i) = (setCell? t a i).getD (r.read (.cell i)) :=
  read_cellsBy t r.id _ bound

theorem keeps_assignRow (t : Table) (a : Assignments) :
    Keeps t (a.map (·.1)) (assignRow t a) := by
  constructor
  · intro r
    rfl
  · intro i bound free r
    rw [read_assignRow bound, setCell?_eq_none.mpr free]
    rfl

theorem assignRow_assignRow (t : Table) {a b : Assignments} (same : a.map (·.1) = b.map (·.1))
    (r : Row) : assignRow t b (assignRow t a r) = assignRow t b r := by
  have cells : cellsBy t (fun i => (setCell? t b i).getD ((assignRow t a r).read (.cell i))) =
      cellsBy t fun i => (setCell? t b i).getD (r.read (.cell i)) := by
    unfold cellsBy
    apply List.map_congr_left
    intro i inside
    cases given : setCell? t b i with
    | some c => rfl
    | none =>
        have free := setCell?_eq_none.mp given
        rw [← same] at free
        exact (keeps_assignRow t a).cells i (List.mem_range.mp inside) free r
  exact congrArg (Row.mk r.id) cells

structure Change where
  assigned : Assignments
  conditions : Conditions

/-- A change to the slots of a list, no one of which its conditions read. -/
structure Change.Within (t : Table) (slots : List Slot) (change : Change) : Prop where
  assigned : change.assigned.map (·.1) = slots
  unread : ∀ c ∈ change.conditions, ∀ i, c.1 = .cell i →
    i < t.columns.length ∧ Slot.cell i ∉ slots

def Change.apply (t : Table) (change : Change) (r : Row) : Row :=
  if t.meets change.conditions r then assignRow t change.assigned r else r

def applyAll (t : Table) (changes : List Change) (r : Row) : Row :=
  changes.foldl (fun r change => change.apply t r) r

theorem applyAll_append (t : Table) (changes later : List Change) (r : Row) :
    applyAll t (changes ++ later) r = applyAll t later (applyAll t changes r) :=
  List.foldl_append

section

variable {t : Table} {slots : List Slot}

theorem Change.Within.keeps {change : Change} (within : change.Within t slots) :
    Keeps t slots (change.apply t) := by
  have kept := keeps_assignRow t change.assigned
  rw [within.assigned] at kept
  constructor
  · intro r
    unfold Change.apply
    split
    · exact kept.id r
    · rfl
  · intro i bound free r
    unfold Change.apply
    split
    · exact kept.cells i bound free r
    · rfl

theorem Change.Within.meets_eq {change : Change} (within : change.Within t slots) {g : Row → Row}
    (kept : Keeps t slots g) (r : Row) :
    t.meets change.conditions (g r) = t.meets change.conditions r := by
  have each : ∀ c ∈ change.conditions, ((g r).read c.1).equals (t.affinity c.1) c.2 =
      (r.read c.1).equals (t.affinity c.1) c.2 := by
    rintro ⟨slot, bound⟩ member
    cases slot with
    | id =>
        change (Cell.int (g r).id).equals _ _ = (Cell.int r.id).equals _ _
        rw [kept.id r]
    | cell i =>
        obtain ⟨inside, free⟩ := within.unread _ member i rfl
        rw [kept.cells i inside free r]
  unfold Table.meets
  rw [Bool.eq_iff_iff, List.all_eq_true, List.all_eq_true]
  constructor
  · intro all c member
    rw [← each c member]
    exact all c member
  · intro all c member
    rw [each c member]
    exact all c member

theorem keeps_applyAll {changes : List Change} (within : ∀ change ∈ changes, change.Within t slots) :
    Keeps t slots (applyAll t changes) := by
  induction changes with
  | nil => exact .refl t slots
  | cons change rest ih =>
      have later := ih fun c member => within c (List.mem_cons_of_mem _ member)
      exact later.comp (within change List.mem_cons_self).keeps

/-- Of several changes the last one that a row meets counts, in the row as it was. -/
theorem applyAll_eq {changes : List Change} (within : ∀ change ∈ changes, change.Within t slots)
    (r : Row) : applyAll t changes r =
      match (changes.filter fun change => t.meets change.conditions r).getLast? with
      | some change => assignRow t change.assigned r
      | none => r := by
  -- from the right: whether the last change is met is settled by the row as it was
  induction changes using List.reverseRecOn with
  | nil => rfl
  | append_singleton earlier change ih =>
      have before : ∀ c ∈ earlier, c.Within t slots :=
        fun c member => within c (List.mem_append_left _ member)
      have here := within change (List.mem_append_right _ (List.mem_singleton_self _))
      have step : applyAll t (earlier ++ [change]) r = change.apply t (applyAll t earlier r) :=
        applyAll_append t earlier [change] r
      rw [step, List.filter_append]
      unfold Change.apply
      rw [here.meets_eq (keeps_applyAll before)]
      by_cases met : t.meets change.conditions r = true
      · have only : [change].filter (fun c => t.meets c.conditions r) = [change] := by simp [met]
        rw [if_pos met, ih before, only, List.getLast?_append_of_ne_nil _ (by simp)]
        cases last : (earlier.filter fun c => t.meets c.conditions r).getLast? with
        | none => rfl
        | some other =>
            have member := (List.mem_filter.mp (List.mem_of_getLast? last)).1
            exact assignRow_assignRow t
              ((before other member).assigned.trans here.assigned.symm) r
      · have none : [change].filter (fun c => t.meets c.conditions r) = [] := by simp [met]
        rw [if_neg met, ih before, none, List.append_nil]

theorem applyAll_applyAll {changes : List Change}
    (within : ∀ change ∈ changes, change.Within t slots) (r : Row) :
    applyAll t changes (applyAll t changes r) = applyAll t changes r := by
  have kept := keeps_applyAll within
  have met : changes.filter (fun change => t.meets change.conditions (applyAll t changes r)) =
      changes.filter fun change => t.meets change.conditions r :=
    List.filter_congr fun change member => (within change member).meets_eq kept r
  have again := applyAll_eq within (applyAll t changes r)
  rw [met] at again
  have once := applyAll_eq within r
  cases last : (changes.filter fun change => t.meets change.conditions r).getLast? with
  | none =>
      rw [last] at again
      exact again
  | some change =>
      rw [last] at once again
      dsimp only at once again
      rw [again, once, assignRow_assignRow t rfl]

/-- Where a row meets one of some changes at most, their order does not count. -/
theorem applyAll_perm {changes others : List Change} (perm : changes.Perm others)
    (within : ∀ change ∈ changes, change.Within t slots) {r : Row}
    (alone : (changes.filter fun change => t.meets change.conditions r).length ≤ 1) :
    applyAll t others r = applyAll t changes r := by
  have met := perm.filter fun change => t.meets change.conditions r
  have same : others.filter (fun change => t.meets change.conditions r) =
      changes.filter fun change => t.meets change.conditions r := by
    rcases Nat.le_one_iff_eq_zero_or_eq_one.mp alone with none | one
    · rw [List.length_eq_zero_iff] at none
      rw [none] at met ⊢
      exact met.symm.eq_nil
    · obtain ⟨change, single⟩ := List.length_eq_one_iff.mp one
      rw [single] at met ⊢
      exact List.perm_singleton.mp met.symm
  rw [applyAll_eq within, applyAll_eq fun change member => within change (perm.mem_iff.mpr member),
    same]

def Table.mapRows (t : Table) (g : Row → Row) : Table :=
  { t with rows := t.rows.map g }

theorem Table.mapRows_comp (t : Table) (g h : Row → Row) :
    (t.mapRows g).mapRows h = t.mapRows fun r => h (g r) := by
  unfold Table.mapRows
  dsimp only
  rw [List.map_map]
  rfl

theorem Table.mapRows_congr {g h : Row → Row} (same : ∀ r ∈ t.rows, g r = h r) :
    t.mapRows g = t.mapRows h := by
  unfold Table.mapRows
  rw [List.map_congr_left same]

theorem Table.mapRows_same (t : Table) : t.mapRows (fun r => r) = t := by
  unfold Table.mapRows
  rw [List.map_id']

theorem Change.Within.select_mapRows {change : Change} (within : change.Within t slots)
    {g : Row → Row} (kept : Keeps t slots g) :
    (t.mapRows g).select change.conditions = (t.select change.conditions).map g := by
  have met : t.meets change.conditions ∘ g = t.meets change.conditions :=
    funext (within.meets_eq kept)
  have filtered : ((t.rows.map g).filter (t.meets change.conditions)) =
      (t.rows.filter (t.meets change.conditions ∘ g)).map g := List.filter_map
  rw [met] at filtered
  exact filtered

theorem Change.Within.setId?_eq_none {change : Change} (within : change.Within t slots)
    (common : ∀ slot ∈ slots, t.identifies slot = false) : setId? change.assigned = none := by
  unfold setId?
  rw [Option.map_eq_none_iff, lastAssigned?_eq_none, within.assigned]
  intro member
  have other := common .id member
  cases other

theorem Change.Within.checkUnique_eq {change : Change} (within : change.Within t slots)
    (common : ∀ slot ∈ slots, t.identifies slot = false) (several : Bool) (r : Row) :
    checkUnique t change.assigned several r = .ok () := by
  have fine : ∀ taken, clash? t (setCell? t change.assigned) taken = none := by
    intro taken
    unfold clash?
    rw [Option.bind_eq_none_iff]
    intro i found
    have clash := List.find?_some found
    obtain ⟨unique, given⟩ := (Bool.and_eq_true _ _).mp clash
    have free : setCell? t change.assigned i = none := by
      refine setCell?_eq_none.mpr ?_
      rw [within.assigned]
      intro member
      have other := common _ member
      exact absurd (unique.symm.trans other) (by decide)
    rw [free] at given
    cases given
  unfold checkUnique
  rw [fine]

/-- An update that assigns no identifying slot is refused only for a required column. -/
theorem Change.Within.updateIn_eq {change : Change} (within : change.Within t slots)
    (common : ∀ slot ∈ slots, t.identifies slot = false) :
    updateIn t change.assigned change.conditions =
      if t.select change.conditions = [] then .ok (t, 0)
      else (checkRequired t change.assigned).map fun _ =>
        (t.mapRows (change.apply t), (t.select change.conditions).length) := by
  unfold updateIn
  cases t.select change.conditions with
  | nil => rfl
  | cons first rest =>
      dsimp only
      rw [within.setId?_eq_none common, if_neg (List.cons_ne_nil first rest)]
      dsimp only
      rw [within.checkUnique_eq common]
      cases checkRequired t change.assigned <;> rfl

theorem Change.Within.updateIn_mapRows {change : Change} (within : change.Within t slots)
    (common : ∀ slot ∈ slots, t.identifies slot = false) {g : Row → Row}
    (kept : Keeps t slots g) :
    updateIn (t.mapRows g) change.assigned change.conditions =
      (updateIn t change.assigned change.conditions).map fun r =>
        (t.mapRows fun r => change.apply t (g r), r.2) := by
  have there : change.Within (t.mapRows g) slots := ⟨within.assigned, within.unread⟩
  have chosen := within.select_mapRows kept
  rw [there.updateIn_eq common, within.updateIn_eq common, chosen]
  by_cases none : t.select change.conditions = []
  · have unmet : ∀ r ∈ t.rows, g r = change.apply t (g r) := by
      intro r member
      have other : ¬ t.meets change.conditions r = true :=
        fun met => List.filter_eq_nil_iff.mp none r member met
      unfold Change.apply
      rw [within.meets_eq kept, if_neg other]
    rw [none, if_pos List.map_nil, if_pos rfl]
    exact congrArg (fun u => Except.ok (u, 0)) (Table.mapRows_congr unmet)
  · have some : ¬ (t.select change.conditions).map g = [] :=
      fun empty => none (List.map_eq_nil_iff.mp empty)
    rw [if_neg none, if_neg some, List.length_map, Table.mapRows_comp]
    change (checkRequired t change.assigned).map _ = _
    cases checkRequired t change.assigned <;> rfl

end

theorem replaceIn_replaceIn {t u : Table} (named : u.name = t.name) (tables : List Table) :
    replaceIn u (replaceIn t tables) = replaceIn u tables := by
  induction tables with
  | nil => rfl
  | cons v rest ih => cases same : sameName v.name t.name <;> simp [replaceIn, same, named, ih]

theorem replaceIn_self {t : Table} {tables : List Table}
    (here : ∀ u, tables.find? (fun u => sameName u.name t.name) = some u → u = t) :
    replaceIn t tables = tables := by
  induction tables with
  | nil => rfl
  | cons u rest ih =>
      unfold replaceIn
      cases same : sameName u.name t.name with
      | true =>
          rw [if_pos rfl, here u (List.find?_cons_of_pos same)]
      | false =>
          have later : ∀ v, rest.find? (fun u => sameName u.name t.name) = some v → v = t := by
            intro v found
            refine here v ?_
            rw [List.find?_cons, same]
            exact found
          rw [if_neg Bool.false_ne_true, ih later]

theorem replaceTable_replaceTable {t u : Table} (named : u.name = t.name) (s : Store) :
    (s.replaceTable t).replaceTable u = s.replaceTable u :=
  congrArg (Store.mk · s.now) (replaceIn_replaceIn named s.tables)

theorem replaceTable_self {s : Store} {t : Table} (here : ∀ u, s.table? t.name = some u → u = t) :
    s.replaceTable t = s :=
  congrArg (Store.mk · s.now) (replaceIn_self here)

/-- The table under a name; where there is none, one without columns and rows. -/
def tableAt (s : Store) (name : String) : Table :=
  (s.table? name).getD { name, columns := [], rows := [] }

theorem tableAt_of_some {s : Store} {name : String} {t : Table} (found : s.table? name = some t) :
    s.tableAt name = t := by
  unfold tableAt
  rw [found]
  rfl

theorem sameName_tableAt (s : Store) (name : String) : sameName (s.tableAt name).name name = true := by
  cases found : s.table? name with
  | none =>
      unfold tableAt
      rw [found]
      exact sameName_self name
  | some t =>
      rw [tableAt_of_some found]
      exact (table?_some found).2

def mapRows (s : Store) (name : String) (g : Row → Row) : Store :=
  s.replaceTable ((s.tableAt name).mapRows g)

theorem table?_mapRows_of_ne (s : Store) {name other : String} (g : Row → Row)
    (apart : sameName name other = false) : (s.mapRows name g).table? other = s.table? other := by
  refine table?_replaceTable_of_ne s ?_
  change sameName (s.tableAt name).name other = false
  rw [sameName_left (sameName_tableAt s name)]
  exact apart

theorem table?_mapRows (s : Store) {name other : String} (g : Row → Row)
    (same : sameName name other = true) :
    (s.mapRows name g).table? other = (s.table? other).map (·.mapRows g) := by
  have named : sameName ((s.tableAt name).mapRows g).name other = true := by
    change sameName (s.tableAt name).name other = true
    rw [sameName_left (sameName_tableAt s name)]
    exact same
  unfold mapRows
  rw [table?_replaceTable, if_pos named]
  cases found : s.table? other with
  | none => rfl
  | some t =>
      rw [← table?_congr same] at found
      rw [tableAt_of_some found]
      rfl

theorem tableAt_mapRows (s : Store) (name : String) (g : Row → Row) :
    (s.mapRows name g).tableAt name = (s.tableAt name).mapRows g := by
  unfold tableAt
  rw [table?_mapRows s g (sameName_self name)]
  cases s.table? name <;> rfl

theorem mapRows_comp (s : Store) (name : String) (g h : Row → Row) :
    (s.mapRows name g).mapRows name h = s.mapRows name fun r => h (g r) := by
  have composed : ((s.mapRows name g).tableAt name).mapRows h =
      (s.tableAt name).mapRows fun r => h (g r) := by
    rw [tableAt_mapRows, Table.mapRows_comp]
  have named : ((s.tableAt name).mapRows fun r => h (g r)).name = ((s.tableAt name).mapRows g).name :=
    rfl
  unfold mapRows at composed ⊢
  rw [composed]
  exact replaceTable_replaceTable named s

theorem mapRows_same (s : Store) (name : String) : s.mapRows name (fun r => r) = s := by
  have here : ∀ u, s.table? (s.tableAt name).name = some u → u = s.tableAt name := by
    intro u found
    rw [table?_congr (sameName_tableAt s name)] at found
    exact (tableAt_of_some found).symm
  unfold mapRows
  rw [Table.mapRows_same]
  exact replaceTable_self here

theorem row?_mapRows {t : Table} {slots : List Slot} {g : Row → Row} (kept : Keeps t slots g)
    (id : Int) : ((t.mapRows g).row? id).isSome = (t.row? id).isSome := by
  have ids : (fun r : Row => decide (r.id = id)) ∘ g = fun r => decide (r.id = id) := by
    funext r
    rw [Function.comp_apply, kept.id r]
  unfold Table.row? Table.mapRows
  rw [List.find?_map, ids, Option.isSome_map]

theorem refersInto_mapRows {s : Store} {name : String} {slots : List Slot} {g : Row → Row}
    (kept : Keeps (s.tableAt name) slots g) (parent : String) (c : Cell) :
    refersInto (s.mapRows name g) parent c = refersInto s parent c := by
  cases c with
  | int id =>
      unfold refersInto
      dsimp only
      cases same : sameName name parent with
      | false => rw [table?_mapRows_of_ne s g same]
      | true =>
          rw [table?_mapRows s g same, ← table?_congr same]
          cases found : s.table? name with
          | none => rfl
          | some t =>
              rw [tableAt_of_some found] at kept
              exact row?_mapRows kept id
  | null => rfl
  | real x => rfl
  | text s => rfl

theorem referencesHold_mapRows {s : Store} {name : String} {slots : List Slot} {g : Row → Row}
    (kept : Keeps (s.tableAt name) slots g) (t : Table) (cellAt : Nat → Option Cell) :
    referencesHold (s.mapRows name g) t cellAt = referencesHold s t cellAt := by
  unfold referencesHold
  simp only [refersInto_mapRows kept]

theorem Change.Within.abandons_eq {t : Table} {slots : List Slot} {change : Change}
    (within : change.Within t slots) (common : ∀ slot ∈ slots, t.identifies slot = false)
    (s : Store) (u : Table) : abandons s u change.assigned change.conditions = false := by
  unfold abandons
  rw [within.setId?_eq_none common]
  split
  · rename_i none
    cases none
  · rfl

theorem Change.Within.perform_mapRows {s : Store} {name : String} {slots : List Slot}
    {change : Change} (within : change.Within (s.tableAt name) slots)
    (common : ∀ slot ∈ slots, (s.tableAt name).identifies slot = false) {g : Row → Row}
    (kept : Keeps (s.tableAt name) slots g) (table : String) (sets : Columns)
    (conditions : List (String × Value)) :
    perform (s.mapRows name g) ((s.tableAt name).mapRows g) change.assigned change.conditions
        (.update table sets conditions) =
      (perform s (s.tableAt name) change.assigned change.conditions
        (.update table sets conditions)).map fun r =>
          ((s.tableAt name).mapRows fun r => change.apply (s.tableAt name) (g r), r.2) := by
  have refer : referencesHold (s.mapRows name g) ((s.tableAt name).mapRows g)
      (setCell? ((s.tableAt name).mapRows g) change.assigned) =
        referencesHold s (s.tableAt name) (setCell? (s.tableAt name) change.assigned) :=
    referencesHold_mapRows kept (s.tableAt name) _
  simp only [perform]
  rw [within.updateIn_mapRows common kept, within.abandons_eq common, within.abandons_eq common]
  cases updateIn (s.tableAt name) change.assigned change.conditions with
  | error e => rfl
  | ok r =>
      by_cases fine : r.2 = 0 ∨ (referencesHold s (s.tableAt name)
          (setCell? (s.tableAt name) change.assigned) = true ∧ (!false) = true)
      · have there := fine
        rw [← refer] at there
        rw [except_ok_bind, if_pos fine]
        exact if_pos there
      · have there := fine
        rw [← refer] at there
        rw [except_ok_bind, if_neg fine]
        exact if_neg there

def slotsOf (t : Table) (names : List String) : List Slot :=
  names.filterMap fun n => t.slot? (bare n)

theorem mem_slotsOf {t : Table} {names : List String} {slot : Slot} :
    slot ∈ slotsOf t names ↔ ∃ n ∈ names, t.slot? (bare n) = some slot :=
  List.mem_filterMap

theorem slots_congr {t u : Table} (columns : u.columns = t.columns) (unknown : String → StoreFault)
    (named : List (String × Value)) : slots u unknown named = slots t unknown named := by
  induction named with
  | nil => rfl
  | cons c rest ih =>
      unfold slots
      rw [slot?_congr columns, ih]

theorem fst_of_placed {t : Table} {sets : Columns} {a : Assignments}
    (placed : List.Forall₂ (fun c p => t.slot? (bare c.1) = some p.1 ∧ p.2 = bind c.2) sets a) :
    a.map (·.1) = slotsOf t sets.names := by
  induction placed with
  | nil => rfl
  | cons here _ ih =>
      rw [List.map_cons, ih]
      exact (List.filterMap_cons_some (f := fun n => t.slot? (bare n)) here.1).symm

/-- Names to be set that do not tell the rows of a table apart, and none of which leads where a key
does. -/
structure Tame (t : Table) (sets keys : List String) : Prop where
  common : ∀ slot ∈ slotsOf t sets, t.identifies slot = false
  unread : ∀ k ∈ keys, ∀ slot, t.slot? (bare k) = some slot → slot ∉ slotsOf t sets

theorem Tame.within {t : Table} {sets : Columns} {conditions : List (String × Value)}
    (tame : Tame t sets.names (conditions.map (·.1))) {a : Assignments} {c : Conditions}
    {unknown : String → StoreFault} (placed : slots t unknown sets = .ok a)
    {now : Calendar.Timestamp}
    (made : conditionsOf t now (conditions.map fun c => (c.1, bind c.2)) = .ok c) :
    Change.Within t (slotsOf t sets.names) ⟨a, c⟩ := by
  refine ⟨fst_of_placed (slots_ok placed), ?_⟩
  rintro ⟨_, bound⟩ member i rfl
  rcases mem_conditionsOf made _ member with never | ⟨n, inside, leads⟩
  · cases never
  · obtain ⟨k, given, rfl⟩ := List.mem_map.mp inside
    obtain ⟨column, there, _⟩ := slot?_cell leads
    exact ⟨(List.getElem?_eq_some_iff.mp there).1,
      tame.unread k.1 (List.mem_map_of_mem given) _ leads⟩

def changeOf (t : Table) (now : Calendar.Timestamp) (sets : Columns)
    (conditions : List (String × Value)) : Change :=
  ⟨(slots t .noSuchColumn sets).toOption.getD [],
    (conditionsOf t now (conditions.map fun c => (c.1, bind c.2))).toOption.getD []⟩

theorem prepare_update (s : Store) (table : String) (sets : Columns)
    (conditions : List (String × Value)) :
    prepare s (.update table sets conditions) =
      (checkGrammar (.update table sets conditions) >>= fun _ =>
        match s.table? (bare table) with
        | none => .error (notWritable (bare table))
        | some t => slots t .noSuchColumn sets >>= fun a =>
            (conditionsOf t s.now (conditions.map fun c => (c.1, bind c.2))).map fun c => (t, a, c)) := by
  unfold prepare
  congr 1

theorem prepare_mapRows (s : Store) (table : String) (g : Row → Row) (sets : Columns)
    (conditions : List (String × Value)) :
    prepare (s.mapRows (bare table) g) (.update table sets conditions) =
      (prepare s (.update table sets conditions)).map fun r => (r.1.mapRows g, r.2) := by
  rw [prepare_update, prepare_update, table?_mapRows s g (sameName_self (bare table))]
  cases checkGrammar (.update table sets conditions) with
  | error e => rfl
  | ok _ =>
      rw [except_ok_bind, except_ok_bind]
      cases s.table? (bare table) with
      | none => rfl
      | some t =>
          rw [Option.map_some]
          dsimp only
          rw [slots_congr (show (t.mapRows g).columns = t.columns from rfl),
            conditionsOf_congr (show (t.mapRows g).columns = t.columns from rfl)]
          cases slots t .noSuchColumn sets with
          | error e => rfl
          | ok a =>
              change (conditionsOf t s.now _).map _ = _
              cases conditionsOf t s.now (conditions.map fun c => (c.1, bind c.2)) <;> rfl

theorem changeOf_eq {t : Table} {now : Calendar.Timestamp} {sets : Columns}
    {conditions : List (String × Value)} {a : Assignments} {c : Conditions}
    (placed : slots t .noSuchColumn sets = .ok a)
    (made : conditionsOf t now (conditions.map fun c => (c.1, bind c.2)) = .ok c) :
    changeOf t now sets conditions = ⟨a, c⟩ := by
  unfold changeOf
  rw [placed, made]
  rfl

theorem replaceTable_mapRows (s : Store) (name : String) (g h : Row → Row) :
    (s.mapRows name g).replaceTable ((s.tableAt name).mapRows h) = s.mapRows name h := by
  have named : ((s.tableAt name).mapRows h).name = ((s.tableAt name).mapRows g).name := rfl
  exact replaceTable_replaceTable named s

/-- An update does to a store in which rows were changed in the assigned slots what it does to the store
as it was, and changes the same rows. -/
theorem execute_mapRows {s : Store} {table : String} {sets : Columns}
    {conditions : List (String × Value)}
    (tame : ∀ t, s.table? (bare table) = some t → Tame t sets.names (conditions.map (·.1)))
    {g : Row → Row}
    (kept : Keeps (s.tableAt (bare table)) (slotsOf (s.tableAt (bare table)) sets.names) g) :
    execute (s.mapRows (bare table) g) (.update table sets conditions) =
      (execute s (.update table sets conditions)).map fun r =>
        (s.mapRows (bare table) fun r =>
          (changeOf (s.tableAt (bare table)) s.now sets conditions).apply (s.tableAt (bare table)) (g r),
          r.2) := by
  unfold execute
  rw [prepare_mapRows]
  split
  · rfl
  · cases prepared : prepare s (.update table sets conditions) with
    | error e => rfl
    | ok r =>
        obtain ⟨t, a, c⟩ := r
        obtain ⟨found, placed, made⟩ := prepare_update_ok prepared
        have fine := tame t found
        obtain rfl := tableAt_of_some found
        have performed := (fine.within placed made).perform_mapRows fine.common kept table sets
          conditions
        rw [changeOf_eq placed made]
        dsimp only [Except.map] at performed ⊢
        split
        · rfl
        · rw [performed]
          cases perform s (s.tableAt (bare table)) a c (.update table sets conditions) with
          | error e => rfl
          | ok r => exact congrArg (fun x => Except.ok (x, r.2)) (replaceTable_mapRows s _ g _)

theorem execute_update_placed {s : Store} {table : String} {sets : Columns}
    {conditions : List (String × Value)} {r : Store × Nat}
    (h : execute s (.update table sets conditions) = .ok r) :
    s.table? (bare table) = some (s.tableAt (bare table)) ∧
      slots (s.tableAt (bare table)) .noSuchColumn sets =
        .ok (changeOf (s.tableAt (bare table)) s.now sets conditions).assigned ∧
      conditionsOf (s.tableAt (bare table)) s.now (conditions.map fun c => (c.1, bind c.2)) =
        .ok (changeOf (s.tableAt (bare table)) s.now sets conditions).conditions := by
  obtain ⟨t, a, c, _, prepared, _⟩ := execute_ok h
  obtain ⟨found, placed, made⟩ := prepare_update_ok prepared
  obtain rfl := tableAt_of_some found
  rw [changeOf_eq placed made]
  exact ⟨found, placed, made⟩

/-- A store when its clock shows some moment. -/
def showing (s : Store) (now : Calendar.Timestamp) : Store :=
  { s with now := now }

theorem WellFormed.showing {s : Store} (sound : s.WellFormed) (now : Calendar.Timestamp) :
    (s.showing now).WellFormed :=
  ⟨sound.names, sound.tables, sound.dictionary⟩

/-- An update whose conditions are on no word for the present moment does the same at any time. -/
theorem execute_showing {table : String} {sets : Columns} {conditions : List (String × Value)}
    (timeless : ∀ c ∈ conditions, isAmong clockWords c.1 = false) (s : Store)
    (now : Calendar.Timestamp) :
    execute (s.showing now) (.update table sets conditions) =
      (execute s (.update table sets conditions)).map fun r => (r.1.showing now, r.2) := by
  have prepared : prepare (s.showing now) (.update table sets conditions) =
      prepare s (.update table sets conditions) := by
    have conditioned : ∀ t : Table,
        conditionsOf t now (conditions.map fun c => (c.1, bind c.2)) =
          conditionsOf t s.now (conditions.map fun c => (c.1, bind c.2)) := by
      refine fun t => conditionsOf_timeless ?_ t s.now now
      intro n member
      obtain ⟨c, inside, rfl⟩ := List.mem_map.mp member
      exact timeless c inside
    rw [prepare_update, prepare_update]
    unfold showing
    simp only [conditioned]
    rfl
  unfold execute
  rw [prepared]
  split
  · rfl
  · cases prepare s (.update table sets conditions) with
    | error e => rfl
    | ok r =>
        obtain ⟨t, a, c⟩ := r
        have performed : perform (s.showing now) t a c (.update table sets conditions) =
          perform s t a c (.update table sets conditions) := rfl
        dsimp only
        rw [performed]
        split
        · rfl
        · cases perform s t a c (.update table sets conditions) <;> rfl

end RowLoader.Store
