import Mathlib.Data.List.Nodup
import RowLoader.Proofs.Work
import RowLoader.Complete

/-!
Completing a row. Every system column stands for one default, and a default counts only where the row
has no value under any spelling of the name; the names of a row stay apart while it is completed.
-/

namespace RowLoader.Complete

open RowLoader.Text RowLoader.Dictionary RowLoader.Precedence

/-- No two names of a row agree in upper case. -/
def Apart (columns : Columns) : Prop :=
  columns.names.Pairwise fun a b => upper a ≠ upper b

theorem Apart.eq_of_upper {columns : Columns} (apart : Apart columns) {a b : String}
    (ha : a ∈ columns.names) (hb : b ∈ columns.names) (same : upper a = upper b) : a = b := by
  have distinct : (columns.names.map upper).Nodup := List.pairwise_map.mpr apart
  exact List.inj_on_of_nodup_map distinct ha hb same

theorem nameIn?_some {columns : Columns} {name n : String} (h : nameIn? columns name = some n) :
    n ∈ columns.names ∧ upper n = upper name := by
  unfold nameIn? at h
  split at h
  · rename_i member
    cases h
    exact ⟨member, rfl⟩
  · exact ⟨List.mem_of_find?_eq_some h, by simpa using List.find?_some h⟩

theorem nameIn?_eq_none {columns : Columns} {name : String} :
    nameIn? columns name = none ↔ ∀ n ∈ columns.names, upper n ≠ upper name := by
  unfold nameIn?
  constructor
  · intro h
    split at h
    · cases h
    · intro n member same
      have other := List.find?_eq_none.mp h n member
      simp [same] at other
  · intro absent
    rw [if_neg fun member => absent name member rfl, List.find?_eq_none]
    intro n member
    simpa using absent n member

theorem Apart.nameIn? {columns : Columns} (apart : Apart columns) {n name : String}
    (member : n ∈ columns.names) (same : upper n = upper name) :
    nameIn? columns name = some n := by
  cases found : Complete.nameIn? columns name with
  | none => exact absurd same (nameIn?_eq_none.mp found n member)
  | some m =>
      obtain ⟨inside, agrees⟩ := nameIn?_some found
      rw [apart.eq_of_upper inside member (agrees.trans same.symm)]

theorem Apart.nameIn?_congr {columns : Columns} (apart : Apart columns) {a b : String}
    (same : upper a = upper b) : Complete.nameIn? columns a = Complete.nameIn? columns b := by
  cases found : Complete.nameIn? columns a with
  | none =>
      refine (nameIn?_eq_none.mpr ?_).symm
      rw [← same]
      exact nameIn?_eq_none.mp found
  | some n =>
      obtain ⟨member, agrees⟩ := nameIn?_some found
      exact (apart.nameIn? member (agrees.trans same)).symm

theorem Apart.valueIn_congr {columns : Columns} (apart : Apart columns) {a b : String}
    (same : upper a = upper b) : valueIn columns a = valueIn columns b := by
  unfold valueIn
  rw [apart.nameIn?_congr same]

theorem valueIn_of_name {columns : Columns} {name n : String}
    (found : nameIn? columns name = some n) : valueIn columns name = columns.getD n := by
  unfold valueIn
  rw [found]

theorem valueIn_of_absent {columns : Columns} {name : String}
    (absent : nameIn? columns name = none) : valueIn columns name = .null := by
  unfold valueIn
  rw [absent]

theorem exists_name_of_valueIn {columns : Columns} {name : String}
    (h : valueIn columns name ≠ .null) : ∃ n ∈ columns.names, upper n = upper name := by
  cases found : nameIn? columns name with
  | none => exact absurd (valueIn_of_absent found) h
  | some n => exact ⟨n, nameIn?_some found⟩

theorem getD_of_mem {columns : Columns} (distinct : columns.names.Nodup) {n : String} {v : Value}
    (member : (n, v) ∈ columns) : columns.getD n = v := by
  unfold Columns.getD Columns.get?
  rw [lookup_of_mem distinct member]
  rfl

theorem Apart.nodup {columns : Columns} (apart : Apart columns) : columns.names.Nodup := by
  refine List.Pairwise.imp ?_ apart
  rintro a b other rfl
  exact other rfl

theorem Apart.valueIn_of_mem {columns : Columns} (apart : Apart columns) {n name : String}
    {v : Value} (member : (n, v) ∈ columns) (same : upper n = upper name) :
    valueIn columns name = v := by
  have named : n ∈ columns.names := List.mem_map.mpr ⟨_, member, rfl⟩
  rw [valueIn_of_name (apart.nameIn? named same), getD_of_mem apart.nodup member]

theorem Apart.valueIn_eq_null {columns : Columns} (apart : Apart columns) {name : String} :
    valueIn columns name = .null ↔ ∀ c ∈ columns, upper c.1 = upper name → c.2 = .null := by
  constructor
  · intro null c member same
    rw [← null]
    exact (apart.valueIn_of_mem member same).symm
  · intro null
    cases found : Complete.nameIn? columns name with
    | none => exact valueIn_of_absent found
    | some n =>
        obtain ⟨member, same⟩ := nameIn?_some found
        obtain ⟨c, inside, rfl⟩ := List.mem_map.mp member
        rw [apart.valueIn_of_mem inside same]
        exact null c inside same

theorem names_putIfAbsent (columns : Columns) (name : String) (value : Value) :
    (putIfAbsent columns name value).names = columns.names ∨
      nameIn? columns name = none ∧
        (putIfAbsent columns name value).names = columns.names ++ [name] := by
  unfold putIfAbsent
  split
  · cases found : nameIn? columns name with
    | some n => exact .inl (Columns.names_put_of_mem value (nameIn?_some found).1)
    | none =>
        refine .inr ⟨rfl, Columns.names_put_of_not_mem value ?_⟩
        exact fun member => nameIn?_eq_none.mp found name member rfl
  · exact .inl rfl

theorem Apart.putIfAbsent {columns : Columns} (apart : Apart columns) (name : String)
    (value : Value) : Apart (putIfAbsent columns name value) := by
  unfold Apart
  rcases names_putIfAbsent columns name value with same | ⟨absent, added⟩
  · rw [same]
    exact apart
  · rw [added]
    refine List.pairwise_append.mpr ⟨apart, List.pairwise_singleton _ _, ?_⟩
    intro n member m last
    rw [List.mem_singleton.mp last]
    exact nameIn?_eq_none.mp absent n member

theorem getD_put_self (columns : Columns) (name : String) (v : Value) :
    (columns.put name v).getD name = v := by
  unfold Columns.getD
  rw [Columns.get?_put_self]
  rfl

theorem getD_put_of_ne (columns : Columns) {name other : String} (v : Value) (h : other ≠ name) :
    (columns.put name v).getD other = columns.getD other := by
  unfold Columns.getD
  rw [Columns.get?_put_of_ne columns v h]

theorem mem_names_put {columns : Columns} {name other : String} {v : Value} :
    other ∈ (columns.put name v).names ↔ other = name ∨ other ∈ columns.names := by
  by_cases member : name ∈ columns.names
  · rw [Columns.names_put_of_mem v member]
    refine ⟨.inr, ?_⟩
    rintro (rfl | old)
    · exact member
    · exact old
  · rw [Columns.names_put_of_not_mem v member, List.mem_append, List.mem_singleton]
    exact or_comm

theorem valueIn_put {columns : Columns} {name : String} {v : Value}
    (after : Apart (columns.put name v)) (other : String) :
    valueIn (columns.put name v) other =
      if upper other = upper name then v else valueIn columns other := by
  by_cases same : upper other = upper name
  · rw [if_pos same, valueIn_of_name (after.nameIn? (mem_names_put.mpr (.inl rfl)) same.symm),
      getD_put_self]
  · rw [if_neg same]
    cases found : Complete.nameIn? columns other with
    | some m =>
        obtain ⟨member, means⟩ := nameIn?_some found
        have apartFrom : m ≠ name := by
          rintro rfl
          exact same means.symm
        rw [valueIn_of_name (after.nameIn? (mem_names_put.mpr (.inr member)) means),
          valueIn_of_name found, getD_put_of_ne columns v apartFrom]
    | none =>
        rw [valueIn_of_absent found]
        refine valueIn_of_absent (nameIn?_eq_none.mpr ?_)
        intro m member
        rcases mem_names_put.mp member with rfl | old
        · exact Ne.symm same
        · exact nameIn?_eq_none.mp found m old

theorem upper_nameIn? (columns : Columns) (name : String) :
    upper ((nameIn? columns name).getD name) = upper name := by
  cases found : nameIn? columns name with
  | none => rfl
  | some m => exact (nameIn?_some found).2

/-- A default is seen under its own name where there was no value, and nowhere else. -/
theorem Apart.valueIn_putIfAbsent {columns : Columns} (apart : Apart columns) (name other : String)
    (value : Value) : valueIn (Complete.putIfAbsent columns name value) other =
      if upper other = upper name ∧ valueIn columns name = .null then value
      else valueIn columns other := by
  have after := apart.putIfAbsent name value
  by_cases null : valueIn columns name = .null
  · have put : Complete.putIfAbsent columns name value =
        columns.put ((Complete.nameIn? columns name).getD name) value := by
      unfold Complete.putIfAbsent
      rw [if_pos null]
    rw [put] at after ⊢
    rw [valueIn_put after, upper_nameIn?]
    simp only [null, and_true]
  · rw [if_neg fun both => null both.2]
    unfold Complete.putIfAbsent
    rw [if_neg null]

/-- Set defaults one after the other, each where there is no value. -/
def fill (columns defaults : Columns) : Columns :=
  defaults.foldl (fun columns d => putIfAbsent columns d.1 d.2) columns

def defaultFor (defaults : Columns) (name : String) : Value :=
  ((defaults.find? fun d => upper d.1 = upper name).map (·.2)).getD .null

theorem defaultFor_cons (d : String × Value) (rest : Columns) (name : String) :
    defaultFor (d :: rest) name =
      if upper d.1 = upper name then d.2 else defaultFor rest name := by
  unfold defaultFor
  by_cases same : upper d.1 = upper name
  · rw [if_pos same, List.find?_cons_of_pos (by simpa using same)]
    rfl
  · rw [if_neg same, List.find?_cons_of_neg (by simpa using same)]

theorem defaultFor_ne_null {defaults : Columns} (given : ∀ d ∈ defaults, d.2 ≠ .null) {name : String}
    (member : name ∈ defaults.names) : defaultFor defaults name ≠ .null := by
  induction defaults with
  | nil => cases member
  | cons d rest ih =>
      rw [defaultFor_cons]
      split
      · exact given d List.mem_cons_self
      · rename_i other
        refine ih (fun e later => given e (List.mem_cons_of_mem _ later)) ?_
        rcases List.mem_cons.mp member with rfl | later
        · exact absurd rfl other
        · exact later

theorem Apart.fill {columns : Columns} (apart : Apart columns) (defaults : Columns) :
    Apart (fill columns defaults) := by
  induction defaults generalizing columns with
  | nil => exact apart
  | cons d rest ih => exact ih (apart.putIfAbsent d.1 d.2)

theorem names_fill (columns defaults : Columns) :
    ∃ added, (fill columns defaults).names = columns.names ++ added ∧
      ∀ n ∈ added, n ∈ defaults.names := by
  induction defaults generalizing columns with
  | nil => exact ⟨[], (List.append_nil _).symm, fun _ member => absurd member List.not_mem_nil⟩
  | cons d rest ih =>
      obtain ⟨added, names, within⟩ := ih (putIfAbsent columns d.1 d.2)
      rcases names_putIfAbsent columns d.1 d.2 with same | ⟨_, more⟩
      · refine ⟨added, ?_, fun n member => List.mem_cons_of_mem _ (within n member)⟩
        rw [← same]
        exact names
      · refine ⟨d.1 :: added, ?_, ?_⟩
        · rw [more, List.append_assoc] at names
          exact names
        · intro n member
          rcases List.mem_cons.mp member with rfl | later
          · exact List.mem_cons_self
          · exact List.mem_cons_of_mem _ (within n later)

/-- A completed row has the values that it had, and otherwise the first default for a name. -/
theorem Apart.valueIn_fill {columns : Columns} (apart : Apart columns) {defaults : Columns}
    (given : ∀ d ∈ defaults, d.2 ≠ .null) (name : String) :
    valueIn (Complete.fill columns defaults) name =
      if valueIn columns name = .null then defaultFor defaults name else valueIn columns name := by
  induction defaults generalizing columns with
  | nil =>
      change valueIn columns name = if _ then .null else _
      split
      · assumption
      · rfl
  | cons d rest ih =>
      have filled : Complete.fill columns (d :: rest) =
          Complete.fill (Complete.putIfAbsent columns d.1 d.2) rest := rfl
      rw [filled, ih (apart.putIfAbsent d.1 d.2) fun e later =>
        given e (List.mem_cons_of_mem _ later), defaultFor_cons]
      have seen := apart.valueIn_putIfAbsent d.1 name d.2
      by_cases same : upper d.1 = upper name
      · rw [apart.valueIn_congr same] at seen
        rw [if_pos same]
        by_cases null : valueIn columns name = .null
        · rw [if_pos ⟨same.symm, null⟩] at seen
          rw [seen, if_neg (given d List.mem_cons_self), if_pos null]
        · rw [if_neg fun both => null both.2] at seen
          rw [seen, if_neg null, if_neg null]
      · rw [if_neg fun both => same both.1.symm] at seen
        rw [seen, if_neg same]

theorem putIfAbsent_of_value {columns : Columns} {name : String} (h : valueIn columns name ≠ .null)
    (value : Value) : putIfAbsent columns name value = columns := by
  unfold putIfAbsent
  rw [if_neg h]

/-- The row's own owner never counts for its default: the default counts where there is none. -/
theorem putIfAbsent_owner (columns : Columns) (name : String) (a b : Value) :
    putIfAbsent columns name (.whole (firstPositive [a, valueIn columns name, b])) =
      putIfAbsent columns name (.whole (firstPositive [a, b])) := by
  by_cases null : valueIn columns name = .null
  · rw [null]
    rfl
  · rw [putIfAbsent_of_value null, putIfAbsent_of_value null]

/-- The defaults of a row to be inserted, in the order in which they count: a key, the owner, activity
where the dictionary lists it, creation and change, and a unique id. -/
def systemDefaults (table : String) (template : Template) (context : Context) (key : Value)
    (listed : Bool) (id : String) : Columns :=
  [(keyColumn table, key),
    (clientColumn, .whole (firstPositive [template.client, .whole context.client])),
    (orgColumn, .whole (firstPositive [template.org, .whole context.org]))]
    ++ (if listed then [(activeColumn, .text "Y")] else [])
    ++ [("Created", .moment context.now), ("CreatedBy", .whole context.user),
      ("Updated", .moment context.now), ("UpdatedBy", .whole context.user),
      (uniqueIdColumn, .text id)]

theorem systemDefaults_given {table : String} {template : Template} {context : Context}
    {key : Value} (given : key ≠ .null) (listed : Bool) (id : String) :
    ∀ d ∈ systemDefaults table template context key listed id, d.2 ≠ .null := by
  cases listed <;> simp [systemDefaults, given]

theorem withOwner_eq (template : Template) (context : Context) (columns : Columns) :
    withOwner template context columns =
      putIfAbsent (putIfAbsent columns clientColumn
          (.whole (firstPositive [template.client, .whole context.client])))
        orgColumn (.whole (firstPositive [template.org, .whole context.org])) := by
  unfold withOwner
  dsimp only
  rw [putIfAbsent_owner, putIfAbsent_owner]

theorem withKey_ok {table : String} {columns keyed : Columns} {w w' : Workspace}
    (h : (withKey table columns).runOn w = (.ok keyed, w')) :
    if valueIn columns (keyColumn table) = .null then
      ∃ key s, nextKey w.store table = .ok (some key, s) ∧
        keyed = putIfAbsent columns (keyColumn table) key ∧ w' = { w with store := s, isOpen := true }
    else keyed = columns ∧ w' = w := by
  unfold withKey at h
  split at h
  · rename_i null
    rw [if_pos null]
    obtain ⟨key, mid, drew, h⟩ := Work.bind_ok h
    obtain ⟨_, s, drawn, rfl⟩ := Work.advance_ok drew
    cases key with
    | none => cases h
    | some key =>
        cases h
        exact ⟨key, s, drawn, rfl, rfl⟩
  · rename_i given
    rw [if_neg given]
    cases h
    exact ⟨rfl, rfl⟩

theorem putIfListed_ok {table name : String} {value : Value} {columns extended : Columns}
    {w w' : Workspace} (h : (putIfListed table name value columns).runOn w = (.ok extended, w')) :
    extended = (if (locate w.store w.memo table name).1.isSome then putIfAbsent columns name value
        else columns) ∧
      w' = { w with memo := (locate w.store w.memo table name).2, isOpen := w'.isOpen } := by
  obtain ⟨listed, mid, looked, h⟩ := Work.bind_ok h
  obtain ⟨rfl, left⟩ := Work.hasColumn_ok looked
  cases h
  exact ⟨rfl, left⟩

theorem fill_systemDefaults (table : String) (template : Template) (context : Context)
    (columns : Columns) (key : Value) (listed : Bool) (id : String) :
    fill columns (systemDefaults table template context key listed id) =
      (let owned := withOwner template context (putIfAbsent columns (keyColumn table) key)
      let active := if listed then putIfAbsent owned activeColumn (.text "Y") else owned
      putIfAbsent (withAudit context active) uniqueIdColumn (.text id)) := by
  unfold fill systemDefaults withAudit
  rw [withOwner_eq]
  cases listed <;>
    simp only [Bool.false_eq_true, if_true, if_false, List.append_nil, List.cons_append,
      List.nil_append, List.foldl_cons, List.foldl_nil]

/-- A key for a row and the store after it: one of the sequence is drawn where the row has none, and no
other key counts. -/
def Draws (s : Store) (table : String) (columns : Columns) (key : Value) (after : Store) : Prop :=
  if valueIn columns (keyColumn table) = .null then nextKey s table = .ok (some key, after)
  else key = .whole 0 ∧ after = s

/-- A row that is completed has got all defaults, a key of the sequence among them unless it had one. -/
theorem complete_ok {table : String} {template : Template} {context : Context}
    {columns completed : Columns} {w w' : Workspace}
    (h : (complete table (some template) context columns).runOn w = (.ok completed, w')) :
    ∃ key mid, completed = fill columns (systemDefaults table template context key
        (locate mid w.memo table activeColumn).1.isSome (w.uniqueId w.drawn)) ∧
      Draws w.store table columns key mid ∧
      w' = { w with
        store := mid
        memo := (locate mid w.memo table activeColumn).2
        drawn := w.drawn + 1
        isOpen := w'.isOpen } := by
  unfold complete at h
  obtain ⟨keyed, mid, drew, h⟩ := Work.bind_ok h
  obtain ⟨_, same, needs, h⟩ := Work.bind_ok h
  cases needs
  obtain ⟨active, looked, listed, h⟩ := Work.bind_ok h
  obtain ⟨id, last, unique, h⟩ := Work.bind_ok h
  obtain ⟨rfl, drawn⟩ := Work.drawId_ok unique
  obtain ⟨rfl, left⟩ := putIfListed_ok listed
  have key := withKey_ok drew
  obtain ⟨rfl, rfl⟩ := Work.pure_ok h
  split at key
  · rename_i null
    obtain ⟨k, s, drawnKey, rfl, rfl⟩ := key
    refine ⟨k, s, ?_, ?_, ?_⟩
    · rw [fill_systemDefaults, left]
    · unfold Draws
      rw [if_pos null]
      exact drawnKey
    · rw [drawn, left]
  · rename_i given
    obtain ⟨rfl, rfl⟩ := key
    refine ⟨.whole 0, mid.store, ?_, ?_, ?_⟩
    · rw [fill_systemDefaults, left, putIfAbsent_of_value given]
    · unfold Draws
      rw [if_neg given]
      exact ⟨rfl, rfl⟩
    · rw [drawn, left]

end RowLoader.Complete
