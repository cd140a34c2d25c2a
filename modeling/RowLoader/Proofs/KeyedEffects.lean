import RowLoader.Proofs.Insertion
import RowLoader.Proofs.LookUps
import RowLoader.Proofs.RewrittenRows

/-!
What one keyed update does. It names no record where a key value is null, has nothing to set where the
row has nothing but keys, and is refused as a whole where its statement is; else it sets the columns of
just the records that equal all the key values, and in them just the columns that the row names besides
the keys, with the time and the user of the change.
-/

namespace RowLoader

open RowLoader.Header RowLoader.Dictionary RowLoader.Store RowLoader.Complete RowLoader.Resolve
open RowLoader.Text RowLoader.Identifier

namespace Write

def stampDefaults (context : Context) (listed : String → Bool) : Columns :=
  [("Updated", .moment context.now), ("UpdatedBy", .whole context.user)].filter fun c => listed c.1

/-- What a row gets of them: each where the row has nothing but null for it, under any spelling. -/
def stampsFor (context : Context) (listed : String → Bool) (sets : Columns) : Columns :=
  (stampDefaults context listed).filter fun c =>
    decide (∀ d ∈ sets, sameName d.1 c.1 = true → d.2 = .null)

theorem stamped_eq_fill (context : Context) (listed : String → Bool) (sets : Columns) :
    stamped context listed sets = fill sets (stampDefaults context listed) := by
  unfold stamped stampDefaults
  cases time : listed "Updated" <;> cases user : listed "UpdatedBy" <;> simp [time, user, fill]

theorem name_of_stampDefaults {context : Context} {listed : String → Bool} {c : String × Value}
    (stamp : c ∈ stampDefaults context listed) : c.1 ∈ stampNames := by
  have either := List.mem_of_mem_filter stamp
  simp only [List.mem_cons, List.not_mem_nil, or_false] at either
  rcases either with rfl | rfl
  · exact List.mem_cons_self
  · exact List.mem_cons_of_mem _ List.mem_cons_self

theorem stampDefaults_given {context : Context} {listed : String → Bool} :
    ∀ c ∈ stampDefaults context listed, c.2 ≠ .null := by
  intro c stamp
  have either := List.mem_of_mem_filter stamp
  simp only [List.mem_cons, List.not_mem_nil, or_false] at either
  rcases either with rfl | rfl <;> exact nofun

theorem apart_stampDefaults (context : Context) (listed : String → Bool) :
    Apart (stampDefaults context listed) := by
  have both : Apart [("Updated", .moment context.now), ("UpdatedBy", .whole context.user)] := by
    have differ : stampNames.Pairwise fun a b => upper a ≠ upper b := by decide +kernel
    exact differ
  exact both.sublist (List.filter_sublist.map _)

theorem plain_stampNames : ∀ n ∈ stampNames, isPlain n = true := by decide +kernel

theorem upper_eq_iff_of_stamp {m : String} (member : m ∈ stampNames) {n : String}
    (other : isPlain n = true) : upper n = upper m ↔ sameName n m = true :=
  (sameName_iff_upper (isAscii_of_plain other) (isAscii_of_plain (plain_stampNames m member))).symm

theorem bare_of_stamp {n m : String} (stamp : m ∈ stampNames) (same : sameName n m = true) :
    bare n = n := by
  have clean : ∀ k ∈ stampNames, (asciiUpper k).toList.getLast? ≠ some '\n' := by decide +kernel
  refine bare_of_last fun feed => clean m stamp ?_
  rw [← sameName_iff.mp same, asciiUpper, String.toList_ofList, List.getLast?_map, feed]
  rfl

theorem defaultFor_of_mem {defaults : Columns} (apart : Apart defaults) {c : String × Value}
    (member : c ∈ defaults) : defaultFor defaults c.1 = c.2 := by
  induction defaults with
  | nil => cases member
  | cons d rest ih =>
      obtain ⟨differ, later⟩ := List.pairwise_cons.mp apart
      rw [defaultFor_cons]
      rcases List.mem_cons.mp member with rfl | inside
      · rw [if_pos rfl]
      · rw [if_neg (differ c.1 (List.mem_map_of_mem inside)), ih later inside]

theorem defaultFor_of_absent {defaults : Columns} {name : String}
    (absent : ∀ d ∈ defaults, upper d.1 ≠ upper name) : defaultFor defaults name = .null := by
  unfold defaultFor
  rw [List.find?_eq_none.mpr fun d member => by simpa using absent d member]
  rfl

theorem exists_mem_of_valueIn {columns : Columns} (apart : Apart columns) {name : String}
    (given : valueIn columns name ≠ .null) :
    ∃ n, (n, valueIn columns name) ∈ columns ∧ upper n = upper name := by
  obtain ⟨n, member, same⟩ := exists_name_of_valueIn given
  obtain ⟨⟨m, v⟩, inside, rfl⟩ := List.mem_map.mp member
  have value := apart.valueIn_of_mem inside same
  exact ⟨m, by rw [value]; exact inside, same⟩

section

variable {context : Context} {listed : String → Bool} {sets : Columns}
  (plain : ∀ n ∈ sets.names, isPlain n = true)
include plain

theorem plain_stamped : ∀ n ∈ (stamped context listed sets).names, isPlain n = true := by
  obtain ⟨added, names, stamps⟩ := names_fill sets (stampDefaults context listed)
  rw [stamped_eq_fill, names]
  intro n member
  rcases List.mem_append.mp member with own | late
  · exact plain n own
  · obtain ⟨c, stamp, rfl⟩ := List.mem_map.mp (stamps n late)
    exact plain_stampNames c.1 (name_of_stampDefaults stamp)

variable (distinct : sets.names.Pairwise fun m n => sameName m n = false)
include distinct

theorem mem_stampsFor {c : String × Value} :
    c ∈ stampsFor context listed sets ↔
      c ∈ stampDefaults context listed ∧ valueIn sets c.1 = .null := by
  unfold stampsFor
  rw [List.mem_filter, decide_eq_true_eq]
  refine and_congr_right fun stamp => ?_
  rw [(apart_of_plain plain distinct).valueIn_eq_null]
  refine forall₂_congr fun d member => ?_
  rw [upper_eq_iff_of_stamp (name_of_stampDefaults stamp) (plain d.1 (List.mem_map_of_mem member))]

theorem stamp_mem_stamped {c : String × Value} (stamp : c ∈ stampsFor context listed sets) :
    ∃ n, (n, c.2) ∈ stamped context listed sets ∧ sameName n c.1 = true := by
  have apart := apart_of_plain plain distinct
  obtain ⟨default, null⟩ := (mem_stampsFor plain distinct).mp stamp
  have value : valueIn (stamped context listed sets) c.1 = c.2 := by
    rw [stamped_eq_fill, apart.valueIn_fill stampDefaults_given, if_pos null,
      defaultFor_of_mem (apart_stampDefaults context listed) default]
  have after : Apart (stamped context listed sets) := by
    rw [stamped_eq_fill]
    exact apart.fill _
  obtain ⟨n, member, same⟩ := exists_mem_of_valueIn after
    (by rw [value]; exact stampDefaults_given c default)
  rw [value] at member
  exact ⟨n, member, (upper_eq_iff_of_stamp (name_of_stampDefaults default)
    (plain_stamped plain n (List.mem_map_of_mem member))).mp same⟩

/-- What a row has itself stays where no stamp takes its place. -/
theorem own_mem_stamped {c : String × Value} (own : c ∈ sets)
    (free : ∀ d ∈ stampsFor context listed sets, sameName d.1 c.1 = false) :
    c ∈ stamped context listed sets := by
  have apart := apart_of_plain plain distinct
  have has : valueIn sets c.1 = c.2 := apart.valueIn_of_mem own rfl
  obtain ⟨added, names, _⟩ := names_fill sets (stampDefaults context listed)
  have named : c.1 ∈ (fill sets (stampDefaults context listed)).names := by
    rw [names]
    exact List.mem_append_left _ (List.mem_map_of_mem own)
  rw [stamped_eq_fill]
  obtain ⟨⟨n, v⟩, member, same⟩ := List.mem_map.mp named
  have value := (apart.fill _).valueIn_of_mem member (congrArg upper same)
  rw [apart.valueIn_fill stampDefaults_given, has] at value
  have kept : v = c.2 := by
    rw [← value]
    by_cases null : c.2 = .null
    · rw [if_pos null, null]
      refine defaultFor_of_absent fun d default agrees => ?_
      have stamp : d ∈ stampsFor context listed sets := by
        refine (mem_stampsFor plain distinct).mpr ⟨default, ?_⟩
        rw [apart.valueIn_congr agrees, has, null]
      have differ := free d stamp
      rw [sameName_comm, (upper_eq_iff_of_stamp (name_of_stampDefaults default)
        (plain c.1 (List.mem_map_of_mem own))).mp agrees.symm] at differ
      cases differ
    · rw [if_neg null]
  rw [kept] at member
  rwa [show n = c.1 from same] at member

/-- Where a statement sets something, the row has a name of its own or gets a stamp. -/
theorem slotsOf_stamped {t : Table} {slot : Slot}
    (set : slot ∈ slotsOf t (stamped context listed sets).names) :
    slot ∈ slotsOf t (sets.names ++ (stampsFor context listed sets).names) := by
  obtain ⟨added, names, stamps⟩ := names_fill sets (stampDefaults context listed)
  rw [stamped_eq_fill, names] at set
  obtain ⟨n, member, leads⟩ := mem_slotsOf.mp set
  rcases List.mem_append.mp member with own | late
  · exact mem_slotsOf.mpr ⟨n, List.mem_append_left _ own, leads⟩
  · obtain ⟨c, default, rfl⟩ := List.mem_map.mp (stamps n late)
    have stamp := name_of_stampDefaults default
    by_cases null : valueIn sets c.1 = .null
    · have gets := (mem_stampsFor plain distinct).mpr ⟨default, null⟩
      exact mem_slotsOf.mpr ⟨c.1, List.mem_append_right _ (List.mem_map_of_mem gets), leads⟩
    · -- the row has a value under another spelling, which leads to the same place
      obtain ⟨m, own, same⟩ := exists_name_of_valueIn null
      have agree := (upper_eq_iff_of_stamp stamp (plain m own)).mp same
      refine mem_slotsOf.mpr ⟨m, List.mem_append_left _ own, ?_⟩
      rw [bare_of_stamp stamp agree, slot?_of_sameName agree t,
        ← bare_of_stamp stamp (sameName_iff.mpr rfl)]
      exact leads

end

/-- What a keyed update makes of a record that it names, by the stamps and the columns of its row: the
columns hold what is stored for their values, where no stamp takes their place; everything else is as
it was. -/
structure ChangedBy (t : Table) (stamps own : Columns) (r r' : Row) : Prop where
  stamped : ∀ c ∈ stamps, ∃ slot, t.slot? c.1 = some slot ∧
    r'.read slot = (bind c.2).stored (t.affinity slot)
  set : ∀ c ∈ own, (∀ d ∈ stamps, sameName d.1 c.1 = false) →
    ∃ slot, t.slot? (bare c.1) = some slot ∧ r'.read slot = (bind c.2).stored (t.affinity slot)
  kept : ∀ slot, slot ∉ slotsOf t (own.names ++ stamps.names) → r'.read slot = r.read slot

theorem changedBy_of_rewrites {context : Context} {listed : String → Bool} {sets : Columns}
    (plain : ∀ n ∈ sets.names, isPlain n = true)
    (distinct : sets.names.Pairwise fun m n => sameName m n = false) {t : Table} {r r' : Row}
    (rewrites : Rewrites t (stamped context listed sets) r r') :
    ChangedBy t (stampsFor context listed sets) sets r r' := by
  refine ⟨?_, ?_, ?_⟩
  · intro c stamp
    obtain ⟨n, member, same⟩ := stamp_mem_stamped plain distinct stamp
    obtain ⟨slot, leads, holds⟩ := rewrites.given _ member
    have named := name_of_stampDefaults (List.mem_of_mem_filter stamp)
    rw [bare_of_stamp named same, slot?_of_sameName same t] at leads
    exact ⟨slot, leads, holds⟩
  · intro c own free
    exact rewrites.given c (own_mem_stamped plain distinct own free)
  · intro slot free
    exact rewrites.kept slot fun set => free (slotsOf_stamped plain distinct set)

/-- The change of a store by a keyed update: the records that equal all the key values are changed, and
no other record, no other column and no other table. -/
def Changes (s s' : Store) (table : String) (t : Table) (conditions : List (String × Value))
    (stamps own : Columns) : Prop :=
  ∃ rows, ∃ g : Row → Row, s'.table? (bare table) = some { t with rows } ∧
    rows.Perm (t.rows.map fun r => if equalsAll t conditions r then g r else r) ∧
    (∀ r ∈ t.rows, equalsAll t conditions r = true → ChangedBy t stamps own r (g r)) ∧
    ∀ name, sameName (bare table) name = false → s'.table? name = s.table? name

/-- How a keyed update with key values and something to set ends, by its statement and by the records
that equal all the key values. -/
structure EndsStated (s : Store) (table : String) (sets stamps own : Columns)
    (conditions : List (String × Value)) (first : Field) (row : Int)
    (answer : Except Failure Outcome) (s' : Store) : Prop where
  unnamed : isPlain table = false →
    answer = .error (.fault (.setup (.badIdentifier (some table) none))) ∧ s' = s
  refused : isPlain table = true → ∀ e, execute s (.update table sets conditions) = .error e →
    answer = .error e ∧ s' = s
  accepted : isPlain table = true → ∀ done, execute s (.update table sets conditions) = .ok done →
    ∃ t, s.table? (bare table) = some t ∧
      (t.rows.filter (equalsAll t conditions) = [] →
        answer = .error (.fault (notFound row first conditions)) ∧ s' = s) ∧
      (t.rows.filter (equalsAll t conditions) ≠ [] →
        answer = .ok ⟨row, .update, (t.rows.filter (equalsAll t conditions)).length,
          predicate conditions⟩ ∧ Changes s s' table t conditions stamps own)

structure EndsKeyed (s : Store) (listed : String → Bool) (table : String) (context : Context)
    (first : Field) (keyFields : List Field) (columns : Columns) (row : Int)
    (answer : Except Failure Outcome) (s' : Store) : Prop where
  incomplete : (∃ c ∈ keyConditions keyFields columns, c.2 = .null) →
    answer = .error (.fault (notFound row first (keyConditions keyFields columns))) ∧ s' = s
  idle : (∀ c ∈ keyConditions keyFields columns, c.2 ≠ .null) →
    withoutKeys keyFields columns = [] → answer = .ok (nothingToUpdate row) ∧ s' = s
  stated : (∀ c ∈ keyConditions keyFields columns, c.2 ≠ .null) →
    withoutKeys keyFields columns ≠ [] →
    EndsStated s table (stamped context listed (withoutKeys keyFields columns))
      (stampsFor context listed (withoutKeys keyFields columns)) (withoutKeys keyFields columns)
      (keyConditions keyFields columns) first row answer s'

theorem checkNames_of_plain {names : List String} (plain : ∀ n ∈ names, isPlain n = true) :
    Statement.checkNames names = .ok () := by
  induction names with
  | nil => rfl
  | cons n rest ih =>
      have here : checked (some n) none = .ok n := if_pos (plain n List.mem_cons_self)
      rw [Statement.checkNames, here, except_ok_bind]
      exact ih fun m later => plain m (List.mem_cons_of_mem _ later)

theorem makeUpdate_of_plain {sets : Columns} {conditions : List (String × Value)}
    (plain : ∀ n ∈ sets.names, isPlain n = true)
    (keyed : ∀ c ∈ conditions, isPlain c.1 = true) (table : String) :
    Statement.makeUpdate table sets conditions =
      if isPlain table then .ok (.update table sets conditions)
      else .error (.setup (.badIdentifier (some table) none)) := by
  have conditioned : Statement.checkNames (conditions.map (·.1)) = .ok () := by
    refine checkNames_of_plain fun n member => ?_
    obtain ⟨c, inside, rfl⟩ := List.mem_map.mp member
    exact keyed c inside
  unfold Statement.makeUpdate
  rw [checkNames_of_plain plain, except_ok_bind, conditioned, except_ok_bind, checked]
  split <;> rfl

theorem mem_names_of_given {columns : Columns} {name : String}
    (given : columns.getD name ≠ .null) : name ∈ columns.names := by
  by_contra absent
  refine given ?_
  have none : columns.lookup name = none := by
    rw [List.lookup_eq_none_iff]
    intro c member
    have differ : name ≠ c.1 := by
      rintro rfl
      exact absent (List.mem_map_of_mem member)
    simpa using differ
  unfold Columns.getD Columns.get?
  rw [none]
  rfl

section

variable {s s' : Store} {table : String} {sets stamps own : Columns}
  {conditions : List (String × Value)} {first : Field} {row : Int}

theorem endsStated_of_unnamed (unnamed : isPlain table = false) (same : s' = s) :
    EndsStated s table sets stamps own conditions first row
      (.error (.fault (.setup (.badIdentifier (some table) none)))) s' :=
  ⟨fun _ => ⟨rfl, same⟩, fun named => absurd named (by simp [unnamed]),
    fun named => absurd named (by simp [unnamed])⟩

theorem endsStated_of_error (named : isPlain table = true) {e : Failure}
    (failed : execute s (.update table sets conditions) = .error e) :
    EndsStated s table sets stamps own conditions first row (.error e) s := by
  refine ⟨fun unnamed => absurd named (by simp [unnamed]), fun _ e' failed' => ?_,
    fun _ done accepted => ?_⟩
  · cases failed.symm.trans failed'
    exact ⟨rfl, rfl⟩
  · cases failed.symm.trans accepted

theorem endsStated_of_ok (named : isPlain table = true) {done : Store × Nat}
    (accepted : execute s (.update table sets conditions) = .ok done) {t : Table}
    (found : s.table? (bare table) = some t) {answer : Except Failure Outcome}
    (none : t.rows.filter (equalsAll t conditions) = [] →
      answer = .error (.fault (notFound row first conditions)) ∧ s' = s)
    (some : t.rows.filter (equalsAll t conditions) ≠ [] →
      answer = .ok ⟨row, .update, (t.rows.filter (equalsAll t conditions)).length,
        predicate conditions⟩ ∧ Changes s s' table t conditions stamps own) :
    EndsStated s table sets stamps own conditions first row answer s' := by
  refine ⟨fun unnamed => absurd named (by simp [unnamed]), fun _ e failed => ?_,
    fun _ _ _ => ⟨t, found, none, some⟩⟩
  cases accepted.symm.trans failed

end

/-- What is left of a statement that is made, by what executing it answers. -/
theorem endsStated_finish {w : Workspace} (usable : w.breakdown = none) (sound : w.store.WellFormed)
    {context : Context} {listed : String → Bool} {fields : List Field} {first : Field}
    {rest : List Field} (keyed : keys fields = first :: rest) {own : Columns}
    (plain : ∀ n ∈ own.names, isPlain n = true)
    (distinct : own.names.Pairwise fun m n => sameName m n = false)
    {conditions : List (String × Value)}
    (worded : ∀ c ∈ conditions, isAmong ("NULL" :: clockWords) c.1 = false)
    {table : String} (named : isPlain table = true)
    (single : ∀ t, w.store.table? (bare table) = some t →
      (slotsOf t (stamped context listed own).names).Nodup) (row : Int) :
    ∃ answer w', (finish fields row (some (.update table (stamped context listed own)
        conditions))).runOn w = (answer, w') ∧
      EndsStated w.store table (stamped context listed own) (stampsFor context listed own) own
        conditions first row answer w'.store := by
  unfold finish
  have executed := Work.runOn_execute usable (.update table (stamped context listed own) conditions)
  cases result : execute w.store (.update table (stamped context listed own) conditions) with
  | error e =>
      rw [result] at executed
      exact ⟨_, _, Work.runOn_bind_of_error executed _, endsStated_of_error named result⟩
  | ok done =>
      obtain ⟨s', affected⟩ := done
      rw [result] at executed
      obtain ⟨t, rows, g, found, counted, idle, changed, perm, rewrites, beside⟩ :=
        execute_update_rewrites sound worded single result
      rw [Work.runOn_bind_of_ok executed]
      unfold conclude
      dsimp only
      rw [keyed]
      dsimp only
      refine ⟨_, _, Work.runOn_ofExcept _ _, endsStated_of_ok named result found ?_ ?_⟩
      · intro none
        rw [counted, none, if_pos List.length_nil]
        exact ⟨rfl, idle none⟩
      · intro some
        rw [if_neg (by rw [counted]; exact fun zero => some (List.length_eq_zero_iff.mp zero)),
          counted]
        refine ⟨rfl, rows, g, changed, perm, ?_, beside⟩
        exact fun r member equal => changedBy_of_rewrites plain distinct (rewrites r member equal)

section

variable {s s' : Store} {listed : String → Bool} {table : String} {context : Context} {first : Field}
  {keyFields : List Field} {columns : Columns} {row : Int}

theorem endsKeyed_of_null (null : ∃ c ∈ keyConditions keyFields columns, c.2 = .null)
    (same : s' = s) :
    EndsKeyed s listed table context first keyFields columns row
      (.error (.fault (notFound row first (keyConditions keyFields columns)))) s' := by
  obtain ⟨c, member, lacking⟩ := null
  exact ⟨fun _ => ⟨rfl, same⟩, fun given => absurd lacking (given c member),
    fun given => absurd lacking (given c member)⟩

variable (given : ∀ c ∈ keyConditions keyFields columns, c.2 ≠ .null)
include given

theorem endsKeyed_of_idle (idle : withoutKeys keyFields columns = []) (same : s' = s) :
    EndsKeyed s listed table context first keyFields columns row (.ok (nothingToUpdate row)) s' :=
  ⟨fun ⟨c, member, lacking⟩ => absurd lacking (given c member), fun _ _ => ⟨rfl, same⟩,
    fun _ filled => absurd idle filled⟩

theorem endsKeyed_of_stated (filled : withoutKeys keyFields columns ≠ [])
    {answer : Except Failure Outcome}
    (ends : EndsStated s table (stamped context listed (withoutKeys keyFields columns))
      (stampsFor context listed (withoutKeys keyFields columns)) (withoutKeys keyFields columns)
      (keyConditions keyFields columns) first row answer s') :
    EndsKeyed s listed table context first keyFields columns row answer s' :=
  ⟨fun ⟨c, member, lacking⟩ => absurd lacking (given c member), fun _ idle => absurd idle filled,
    fun _ _ => ends⟩

theorem plain_keyConditions (plain : ∀ n ∈ columns.names, isPlain n = true) :
    ∀ c ∈ keyConditions keyFields columns, isPlain c.1 = true := by
  intro c member
  have has := given c member
  obtain ⟨f, _, rfl⟩ := List.mem_map.mp member
  exact plain f.target (mem_names_of_given has)

end

theorem worded_keyConditions {keyFields : List Field}
    (worded : ∀ f ∈ keyFields, isAmong ("NULL" :: clockWords) f.target = false) (columns : Columns) :
    ∀ c ∈ keyConditions keyFields columns, isAmong ("NULL" :: clockWords) c.1 = false := by
  intro c member
  obtain ⟨f, key, rfl⟩ := List.mem_map.mp member
  exact worded f key

/-- How a keyed update ends on every store, for resolved columns whose names are identifiers that are
apart up to case, where no key is a word that means no column, and no two names that are set lead to
one place. -/
theorem keyed_update_ends {w : Workspace} (usable : w.breakdown = none) (sound : w.store.WellFormed)
    {fields : List Field} {first : Field} {rest : List Field} (keyed : keys fields = first :: rest)
    {columns : Columns} (plain : ∀ n ∈ columns.names, isPlain n = true)
    (distinct : columns.names.Pairwise fun m n => sameName m n = false)
    (worded : ∀ f ∈ keys fields, isAmong ("NULL" :: clockWords) f.target = false)
    (table : String) (template : Option Template) (context : Context)
    (single : ∀ t, w.store.table? (bare table) = some t →
      (slotsOf t (stamped context (lists w table) (withoutKeys (keys fields) columns)).names).Nodup)
    (row : Int) :
    ∃ answer w', (update table template context fields columns row).runOn w = (answer, w') ∧
      EndsKeyed w.store (lists w table) table context first (keys fields) columns row answer
        w'.store := by
  have plainSets : ∀ n ∈ Columns.names (withoutKeys (keys fields) columns), isPlain n = true :=
    fun n member => plain n ((List.filter_sublist.map _).subset member)
  have distinctSets : (Columns.names (withoutKeys (keys fields) columns)).Pairwise
      fun m n => sameName m n = false := distinct.sublist (List.filter_sublist.map _)
  obtain ⟨w', prepared, asked⟩ :=
    runOn_prepareKeyed usable table context first (first :: rest) columns row
  rw [keyed] at plainSets distinctSets worded single
  unfold update
  rw [keyed]
  dsimp only
  rw [updateKeyed_eq table context keyed]
  unfold keyedStatement at prepared
  dsimp only at prepared
  by_cases null : (keyConditions (first :: rest) columns).any (fun c => c.2 = .null) = true
  · rw [if_pos null] at prepared
    obtain ⟨c, member, lacking⟩ := List.any_eq_true.mp null
    exact ⟨_, w', Work.runOn_bind_of_error prepared _,
      endsKeyed_of_null ⟨c, member, of_decide_eq_true lacking⟩ asked.store⟩
  · rw [if_neg null] at prepared
    have given : ∀ c ∈ keyConditions (first :: rest) columns, c.2 ≠ .null := by
      intro c member absent
      exact null (List.any_eq_true.mpr ⟨c, member, decide_eq_true absent⟩)
    by_cases idle : withoutKeys (first :: rest) columns = []
    · rw [idle] at prepared
      rw [Work.runOn_bind_of_ok prepared]
      exact ⟨_, w', rfl, endsKeyed_of_idle given idle asked.store⟩
    · rw [if_neg (by simpa using idle), makeUpdate_of_plain (plain_stamped plainSets)
        (plain_keyConditions given plain)] at prepared
      cases named : isPlain table with
      | false =>
          rw [named, if_neg Bool.false_ne_true] at prepared
          exact ⟨_, w', Work.runOn_bind_of_error prepared _,
            endsKeyed_of_stated given idle (endsStated_of_unnamed named asked.store)⟩
      | true =>
          rw [named, if_pos rfl] at prepared
          obtain ⟨answer, w'', ran, ends⟩ := endsStated_finish (asked.breakdown.trans usable)
            (asked.store ▸ sound) keyed plainSets distinctSets
            (worded_keyConditions worded columns) named (asked.store ▸ single) row
          rw [asked.store] at ends
          exact ⟨answer, w'', (Work.runOn_bind_of_ok prepared _).trans ran,
            endsKeyed_of_stated given idle ends⟩

def stampedWorkspace : Workspace :=
  { Run.partWorkspace with
    store := describing parts [("Part_ID", 13), ("Value", 10), ("Amount", 11), ("Updated", 16)] 3 1
      none }

def amountFields : List Field :=
  read [some "Value/K", some "Amount"]

def amountRow : Columns :=
  [("Value", .text "A"), ("Amount", .whole 7)]

/-- The one part that equals the key value gets its amount and the time of the change, and nothing else
of the store changes. -/
theorem keyed_update_ends_part :
    ∃ w', (update "Part" none (.standard (Calendar.Date.midnight ⟨2026, 1, 2⟩)) amountFields
        amountRow 2).runOn stampedWorkspace = (.ok ⟨2, .update, 1, "Value=A"⟩, w') ∧
      Changes stampedWorkspace.store w'.store "Part" parts [("Value", .text "A")]
        [("Updated", .moment (Calendar.Date.midnight ⟨2026, 1, 2⟩))] [("Amount", .whole 7)] := by
  have sound : stampedWorkspace.store.WellFormed :=
    wellFormed_describing (by decide +kernel) (by decide +kernel) _ 3 1 none
  have keyed : keys amountFields = [Field.read (some "Value/K") 1] := by decide +kernel
  have plain : ∀ n ∈ amountRow.names, isPlain n = true := by decide +kernel
  have found : stampedWorkspace.store.table? (bare "Part") = some parts := by decide +kernel
  have stamps : stampsFor (.standard (Calendar.Date.midnight ⟨2026, 1, 2⟩))
      (lists stampedWorkspace "Part") [("Amount", .whole 7)] =
      [("Updated", .moment (Calendar.Date.midnight ⟨2026, 1, 2⟩))] := by decide +kernel
  have accepted : ∃ done, execute stampedWorkspace.store (.update "Part"
      (stamped (.standard (Calendar.Date.midnight ⟨2026, 1, 2⟩)) (lists stampedWorkspace "Part")
        [("Amount", .whole 7)]) [("Value", .text "A")]) = .ok done :=
    ⟨_, toOption_eq_some.mp (Option.eq_some_of_isSome (by decide +kernel))⟩
  obtain ⟨done, executed⟩ := accepted
  obtain ⟨answer, w', ran, ends⟩ := keyed_update_ends (w := stampedWorkspace) rfl sound keyed plain
    (by decide +kernel) (by decide +kernel) "Part" none
    (.standard (Calendar.Date.midnight ⟨2026, 1, 2⟩)) (fun t here => by
      cases found.symm.trans here
      decide +kernel) 2
  have conditions : keyConditions (keys amountFields) amountRow = [("Value", .text "A")] := by
    decide +kernel
  have own : withoutKeys (keys amountFields) amountRow = [("Amount", .whole 7)] := by
    decide +kernel
  have stated := ends.stated (by decide +kernel) (by decide +kernel)
  rw [conditions, own, stamps] at stated
  obtain ⟨t, here, _, updated⟩ := stated.accepted (by decide +kernel) done executed
  cases found.symm.trans here
  obtain ⟨told, changes⟩ := updated (by decide +kernel)
  rw [told] at ran
  have one : (parts.rows.filter (equalsAll parts [("Value", .text "A")])).length = 1 := by
    decide +kernel
  rw [one] at ran
  exact ⟨w', ran, changes⟩

/-- A word for the present day names no record, though a column has the name and a record equals the
value; a word for truth names every record of a table without such a column; and of two names for the
row id the later one counts. -/
theorem names_that_mislead :
    datedParts.rows.filter (equalsAll datedParts [("Current_Date", .text "A")]) = datedParts.rows ∧
      ((update "Part" none (.standard (Calendar.Date.midnight ⟨2026, 1, 2⟩))
          (read [some "Current_Date/K", some "Name"])
          [("Current_Date", .text "A"), ("Name", .text "Shaft")] 2).runOn datedWorkspace).1 =
        .error (.fault (notFound 2 (.read (some "Current_Date/K") 1)
          [("Current_Date", .text "A")])) ∧
      parts.slot? "TRUE" = none ∧
      ((update "Part" none (.standard (Calendar.Date.midnight ⟨2026, 1, 2⟩))
          (read [some "TRUE/K", some "Amount"]) [("TRUE", .whole 1), ("Amount", .whole 3)] 2).runOn
        Run.partWorkspace).1 = .ok ⟨2, .update, 2, "TRUE=1"⟩ ∧
      (rowsOf ((update "Part" none (.standard (Calendar.Date.midnight ⟨2026, 1, 2⟩))
          (read [some "Value/K", some "Part_ID", some "rowid"])
          [("Value", .text "A"), ("Part_ID", .whole 5), ("rowid", .whole 7)] 2).runOn
        Run.partWorkspace).2.store "Part").map (·.id) = [2, 7] := by
  refine ⟨?_, ?_, ?_, ?_, ?_⟩ <;> decide +kernel

end Write

end RowLoader
