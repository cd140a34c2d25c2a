import RowLoader.Proofs.Insertion
import RowLoader.Proofs.Rendering

/-!
System columns of rows of any names. Two names of a row may agree in upper case, so a name means the one
that is spelled like it, or else the first that agrees with it. What a name means stays what it means
while defaults are set, and no value is lost; so a completed row is complete.
-/

namespace RowLoader

open RowLoader.Text RowLoader.Dictionary RowLoader.Precedence RowLoader.Store

namespace Complete

theorem nameIn?_congr {columns other : Columns} (same : other.names = columns.names) (name : String) :
    nameIn? other name = nameIn? columns name := by
  unfold nameIn?
  rw [same]

theorem nameIn?_putIfAbsent {columns : Columns} {n m : String} (found : nameIn? columns n = some m)
    (name : String) (value : Value) : nameIn? (putIfAbsent columns name value) n = some m := by
  rcases names_putIfAbsent columns name value with same | ⟨absent, added⟩
  · rw [nameIn?_congr same, found]
  · obtain ⟨member, agrees⟩ := nameIn?_some found
    have other : n ≠ name := by
      rintro rfl
      exact nameIn?_eq_none.mp absent m member agrees
    unfold nameIn? at found ⊢
    rw [added]
    by_cases spelled : n ∈ columns.names
    · rw [if_pos spelled] at found
      rw [if_pos (List.mem_append_left _ spelled), found]
    · rw [if_neg spelled] at found
      rw [if_neg (by simp [spelled, other]), List.find?_append, found]
      rfl

theorem nameIn?_putIfAbsent_self {columns : Columns} {name : String}
    (null : valueIn columns name = .null) (value : Value) : ∃ k,
      nameIn? (putIfAbsent columns name value) name = some k ∧
      putIfAbsent columns name value = columns.put k value := by
  have put : putIfAbsent columns name value =
      columns.put ((nameIn? columns name).getD name) value := by
    unfold putIfAbsent
    rw [if_pos null]
  cases found : nameIn? columns name with
  | some k =>
      rw [found] at put
      exact ⟨k, nameIn?_putIfAbsent found name value, put⟩
  | none =>
      rw [found] at put
      have spelled : name ∈ (putIfAbsent columns name value).names := by
        rw [put]
        exact mem_names_put.mpr (.inl rfl)
      exact ⟨name, if_pos spelled, put⟩

theorem nameIn?_putIfAbsent_ne_none (columns : Columns) (name : String) (value : Value) :
    ∃ k, nameIn? (putIfAbsent columns name value) name = some k := by
  by_cases null : valueIn columns name = .null
  · obtain ⟨k, means, _⟩ := nameIn?_putIfAbsent_self null value
    exact ⟨k, means⟩
  · rw [putIfAbsent_of_value null]
    cases found : nameIn? columns name with
    | none => exact absurd (valueIn_of_absent found) null
    | some k => exact ⟨k, rfl⟩

theorem valueIn_putIfAbsent_self {columns : Columns} {name : String}
    (null : valueIn columns name = .null) (value : Value) :
    valueIn (putIfAbsent columns name value) name = value := by
  obtain ⟨k, means, put⟩ := nameIn?_putIfAbsent_self null value
  rw [valueIn_of_name means, put, getD_put_self]

theorem get?_putIfAbsent {columns : Columns} {n : String} {v : Value}
    (held : columns.get? n = some v) (given : v ≠ .null) (name : String) (value : Value) :
    (putIfAbsent columns name value).get? n = some v := by
  unfold putIfAbsent
  split
  · rename_i null
    have other : n ≠ (nameIn? columns name).getD name := by
      intro same
      have value : valueIn columns name = v := by
        cases found : nameIn? columns name with
        | some k =>
            rw [found] at same
            subst same
            rw [valueIn_of_name found, Columns.getD, held]
            rfl
        | none =>
            rw [found] at same
            subst same
            have absent : columns.get? n = none := by
              refine List.lookup_eq_none_iff.mpr ?_
              intro c member
              have unlike := nameIn?_eq_none.mp found c.1 (List.mem_map_of_mem member)
              exact bne_iff_ne.mpr fun (same : n = c.1) => unlike (congrArg upper same.symm)
            rw [absent] at held
            cases held
      exact given (value.symm.trans null)
    rw [Columns.get?_put_of_ne columns _ other, held]
  · exact held

theorem get?_of_getD {columns : Columns} {n : String} (given : columns.getD n ≠ .null) :
    columns.get? n = some (columns.getD n) := by
  unfold Columns.getD at *
  cases held : columns.get? n with
  | none =>
      rw [held] at given
      exact absurd rfl given
  | some v => rfl

theorem valueIn_putIfAbsent_of_value {columns : Columns} {n : String}
    (given : valueIn columns n ≠ .null) (name : String) (value : Value) :
    valueIn (putIfAbsent columns name value) n = valueIn columns n := by
  cases found : nameIn? columns n with
  | none => exact absurd (valueIn_of_absent found) given
  | some m =>
      rw [valueIn_of_name found] at given
      rw [valueIn_of_name found, valueIn_of_name (nameIn?_putIfAbsent found name value)]
      unfold Columns.getD
      rw [get?_putIfAbsent (get?_of_getD given) given name value]
      rfl

theorem valueIn_putIfAbsent_of_ne {columns : Columns} {n name : String} {value : Value}
    (other : nameIn? (putIfAbsent columns name value) n ≠
      nameIn? (putIfAbsent columns name value) name) :
    valueIn (putIfAbsent columns name value) n = valueIn columns n := by
  by_cases null : valueIn columns name = .null
  · obtain ⟨k, means, put⟩ := nameIn?_putIfAbsent_self null value
    rw [means] at other
    cases found : nameIn? columns n with
    | some m =>
        have same := nameIn?_putIfAbsent found name value
        rw [same] at other
        rw [valueIn_of_name same, valueIn_of_name found, put,
          getD_put_of_ne columns value (fun e => other (congrArg some e))]
    | none =>
        rw [valueIn_of_absent found]
        refine valueIn_of_absent ?_
        cases later : nameIn? (putIfAbsent columns name value) n with
        | none => rfl
        | some m =>
            -- the name can only mean what was added, which is what the default stands under
            rw [later] at other
            obtain ⟨member, agrees⟩ := nameIn?_some later
            rw [put] at member
            rcases mem_names_put.mp member with rfl | old
            · exact absurd rfl other
            · exact absurd agrees (nameIn?_eq_none.mp found m old)
  · rw [putIfAbsent_of_value null]

theorem fill_append (columns defaults others : Columns) :
    fill columns (defaults ++ others) = fill (fill columns defaults) others :=
  List.foldl_append

theorem names_fill_apart (columns defaults : Columns) :
    ∃ added, (fill columns defaults).names = columns.names ++ added ∧
      (∀ n ∈ added, n ∈ defaults.names) ∧
      (∀ n ∈ added, ∀ m ∈ columns.names, upper m ≠ upper n) ∧
      added.Pairwise fun m n => upper m ≠ upper n := by
  induction defaults generalizing columns with
  | nil => exact ⟨[], (List.append_nil _).symm, nofun, nofun, .nil⟩
  | cons d rest ih =>
      obtain ⟨added, names, within, fresh, apart⟩ := ih (putIfAbsent columns d.1 d.2)
      have within : ∀ n ∈ added, n ∈ Columns.names (d :: rest) :=
        fun n member => List.mem_cons_of_mem _ (within n member)
      rcases names_putIfAbsent columns d.1 d.2 with same | ⟨absent, more⟩
      · rw [same] at names fresh
        exact ⟨added, names, within, fresh, apart⟩
      · rw [more] at names fresh
        refine ⟨d.1 :: added, ?_, ?_, ?_, ?_⟩
        · rw [List.append_assoc] at names
          exact names
        · exact List.forall_mem_cons.mpr ⟨List.mem_cons_self, within⟩
        · refine List.forall_mem_cons.mpr ⟨nameIn?_eq_none.mp absent, ?_⟩
          exact fun n member m old => fresh n member m (List.mem_append_left _ old)
        · refine List.pairwise_cons.mpr ⟨?_, apart⟩
          exact fun n member => fresh n member d.1 (List.mem_append_right _ List.mem_cons_self)

theorem nameIn?_fill {columns : Columns} {n m : String} (found : nameIn? columns n = some m)
    (defaults : Columns) : nameIn? (fill columns defaults) n = some m := by
  induction defaults generalizing columns with
  | nil => exact found
  | cons d rest ih => exact ih (nameIn?_putIfAbsent found d.1 d.2)

theorem get?_fill {columns : Columns} {n : String} {v : Value} (held : columns.get? n = some v)
    (given : v ≠ .null) (defaults : Columns) : (fill columns defaults).get? n = some v := by
  induction defaults generalizing columns with
  | nil => exact held
  | cons d rest ih => exact ih (get?_putIfAbsent held given d.1 d.2)

theorem valueIn_fill_of_value {columns : Columns} {n : String} (given : valueIn columns n ≠ .null)
    (defaults : Columns) : valueIn (fill columns defaults) n = valueIn columns n := by
  induction defaults generalizing columns with
  | nil => rfl
  | cons d rest ih =>
      have kept := valueIn_putIfAbsent_of_value given d.1 d.2
      have later : valueIn (fill columns (d :: rest)) n = _ := ih (kept ▸ given)
      rw [later, kept]

theorem valueIn_fill_ne_null {columns defaults : Columns} (given : ∀ d ∈ defaults, d.2 ≠ .null)
    {n : String} (member : n ∈ defaults.names) : valueIn (fill columns defaults) n ≠ .null := by
  induction defaults generalizing columns with
  | nil => cases member
  | cons d rest ih =>
      rcases List.mem_cons.mp member with rfl | later
      · have value : valueIn (putIfAbsent columns d.1 d.2) d.1 ≠ .null := by
          by_cases null : valueIn columns d.1 = .null
          · rw [valueIn_putIfAbsent_self null]
            exact given d List.mem_cons_self
          · rwa [putIfAbsent_of_value null]
        have kept : valueIn (fill columns (d :: rest)) d.1 = _ := valueIn_fill_of_value value rest
        rw [kept]
        exact value
      · exact ih (fun e other => given e (List.mem_cons_of_mem _ other)) later

/-- A row with a value for every default is left as it is. -/
theorem fill_of_values {columns defaults : Columns}
    (given : ∀ n ∈ defaults.names, valueIn columns n ≠ .null) : fill columns defaults = columns := by
  induction defaults with
  | nil => rfl
  | cons d rest ih =>
      have first : fill columns (d :: rest) = fill (putIfAbsent columns d.1 d.2) rest := rfl
      rw [first, putIfAbsent_of_value (given d.1 List.mem_cons_self)]
      exact ih fun n member => given n (List.mem_cons_of_mem _ member)

theorem nameIn?_fill_of_mem (columns : Columns) {defaults : Columns} {n : String}
    (member : n ∈ defaults.names) : ∃ k, nameIn? (fill columns defaults) n = some k := by
  induction defaults generalizing columns with
  | nil => cases member
  | cons d rest ih =>
      rcases List.mem_cons.mp member with rfl | later
      · obtain ⟨k, means⟩ := nameIn?_putIfAbsent_ne_none columns d.1 d.2
        exact ⟨k, nameIn?_fill means rest⟩
      · exact ih (putIfAbsent columns d.1 d.2) later

theorem valueIn_fill_of_ne {columns defaults : Columns} {n : String}
    (other : ∀ d ∈ defaults, nameIn? (fill columns defaults) n ≠
      nameIn? (fill columns defaults) d.1) :
    valueIn (fill columns defaults) n = valueIn columns n := by
  induction defaults generalizing columns with
  | nil => rfl
  | cons d rest ih =>
      have first : fill columns (d :: rest) = fill (putIfAbsent columns d.1 d.2) rest := rfl
      rw [first] at other ⊢
      rw [ih fun e member => other e (List.mem_cons_of_mem _ member)]
      refine valueIn_putIfAbsent_of_ne fun same => ?_
      obtain ⟨k, means⟩ := nameIn?_putIfAbsent_ne_none columns d.1 d.2
      apply other d List.mem_cons_self
      rw [nameIn?_fill means, nameIn?_fill (same.trans means)]

/-- A default counts where there was no value, unless an earlier default is what its name means. -/
theorem valueIn_fill_default {columns earlier later : Columns} {d : String × Value}
    (given : d.2 ≠ .null) (null : valueIn columns d.1 = .null)
    (other : ∀ e ∈ earlier, nameIn? (fill columns (earlier ++ d :: later)) d.1 ≠
      nameIn? (fill columns (earlier ++ d :: later)) e.1) :
    valueIn (fill columns (earlier ++ d :: later)) d.1 = d.2 := by
  have parts : fill columns (earlier ++ d :: later) =
      fill (putIfAbsent (fill columns earlier) d.1 d.2) later := fill_append _ _ _
  have before : valueIn (fill columns earlier) d.1 = .null := by
    rw [valueIn_fill_of_ne, null]
    intro e member same
    obtain ⟨k, means⟩ := nameIn?_fill_of_mem columns (List.mem_map_of_mem member)
    apply other e member
    rw [fill_append, nameIn?_fill means, nameIn?_fill (same.trans means)]
  have set := valueIn_putIfAbsent_self before d.2
  have held : valueIn (putIfAbsent (fill columns earlier) d.1 d.2) d.1 ≠ .null := by
    rwa [set]
  rw [parts, valueIn_fill_of_value held, set]

end Complete

namespace Dictionary

/-- A sequence goes one step on: the key that is next in its row is followed by the one a step on, and
nothing else in the store changes. -/
structure StepsOn (s : Store) (table : String) (r : Row) (s' : Store) : Prop where
  chosen : sequenceRow? s table = some r
  stepped : ∃ next q r', advance (currentNext s r) (step s r) = .ok next ∧
    s.table? sequenceTable = some q ∧
    s' = s.replaceTable (withNext q r.id (next.stored .number)) ∧
    sequenceRow? s' table = some r' ∧ currentNext s' r' = next.stored .number

/-- A key that is handed out is the next one of the sequence, which goes one step on. -/
theorem nextKey_stepsOn {s s' : Store} (sound : s.WellFormed) {table : String} {key : Value}
    (h : nextKey s table = .ok (some key, s')) :
    ∃ r, StepsOn s table r s' ∧ key = (currentNext s r).value := by
  obtain ⟨q, found, shape⟩ := sequences_of_wellFormed sound
  obtain ⟨r, next, chosen, rfl, stepped, rfl⟩ := nextKey_ok found shape h
  have first := currentNext_eq found shape r
  have after := shape.withNext r.id (next.stored .number)
  have left : (s.replaceTable (withNext q r.id (next.stored .number))).table? sequenceTable =
      some (withNext q r.id (next.stored .number)) := table?_replaceTable_self found rfl
  refine ⟨r, ⟨?_, next, q, Row.withNext (next.stored .number) r, ?_, found, rfl, ?_, ?_⟩, ?_⟩
  · rw [sequenceRow?_eq found shape, chosen]
  · rw [first, step_eq found shape, stepped]
  · rw [sequenceRow?_eq left after]
    exact rowOfSequence?_withNext chosen _
  · rw [currentNext_eq left after]
    exact read_withNext shape (List.mem_of_find?_eq_some chosen) _
  · rw [first]

end Dictionary

namespace Complete

/-- What completing a row makes of it. -/
structure Completes (table : String) (template : Template) (context : Context) (listed : Bool)
    (columns completed : Columns) : Prop where
  /-- Its names stay in front, and behind them come names of system columns that agree with none. -/
  names : ∃ added, completed.names = columns.names ++ added ∧
    (∀ n ∈ added, n ∈ systemNames table listed) ∧
    (∀ n ∈ added, ∀ m ∈ columns.names, upper m ≠ upper n) ∧
    added.Pairwise fun m n => upper m ≠ upper n
  kept : ∀ n v, columns.get? n = some v → v ≠ .null → completed.get? n = some v
  given : ∀ n ∈ systemNames table listed, valueIn completed n ≠ .null
  client : valueIn columns clientColumn = .null →
    nameIn? completed clientColumn ≠ nameIn? completed (keyColumn table) →
    valueIn completed clientColumn =
      .whole (firstPositive [template.client, .whole context.client])
  org : valueIn columns orgColumn = .null →
    nameIn? completed orgColumn ≠ nameIn? completed (keyColumn table) →
    valueIn completed orgColumn = .whole (firstPositive [template.org, .whole context.org])

/-- Client and organization are two columns in every row that has them. -/
theorem nameIn?_org_ne_client {columns : Columns} {n : String}
    (found : nameIn? columns clientColumn = some n) :
    nameIn? columns orgColumn ≠ nameIn? columns clientColumn := by
  intro same
  rw [found] at same
  have agree := (nameIn?_some found).2.symm.trans (nameIn?_some same).2
  exact absurd agree (by decide +kernel)

/-- The key comes first among the defaults, and the owner next. -/
theorem systemDefaults_parts (table : String) (template : Template) (context : Context) (key : Value)
    (listed : Bool) (id : String) : ∃ later, systemDefaults table template context key listed id =
      (keyColumn table, key) ::
        (clientColumn, .whole (firstPositive [template.client, .whole context.client])) ::
        (orgColumn, .whole (firstPositive [template.org, .whole context.org])) :: later :=
  ⟨_, rfl⟩

theorem completes_fill {key : Value} (given : key ≠ .null) (table : String) (template : Template)
    (context : Context) (listed : Bool) (columns : Columns) (id : String) :
    Completes table template context listed columns
      (fill columns (systemDefaults table template context key listed id)) := by
  have defaults : ∀ d ∈ systemDefaults table template context key listed id, d.2 ≠ .null :=
    systemDefaults_given given listed id
  have named := names_systemDefaults_eq table template context key listed id
  obtain ⟨later, parts⟩ := systemDefaults_parts table template context key listed id
  refine ⟨?_, fun n v held present => get?_fill held present _, ?_, ?_, ?_⟩
  · obtain ⟨added, names, within, fresh, apart⟩ :=
      names_fill_apart columns (systemDefaults table template context key listed id)
    rw [named] at within
    exact ⟨added, names, within, fresh, apart⟩
  · intro n member
    rw [← named] at member
    exact valueIn_fill_ne_null defaults member
  · intro null other
    rw [parts] at other ⊢
    refine @valueIn_fill_default columns [(keyColumn table, key)] _ (clientColumn, _) nofun null ?_
    intro e member
    rwa [List.mem_singleton.mp member]
  · intro null other
    have client : clientColumn ∈
        (systemDefaults table template context key listed id).names := by
      rw [parts]
      exact List.mem_cons_of_mem _ List.mem_cons_self
    obtain ⟨k, means⟩ := nameIn?_fill_of_mem columns client
    have apart := nameIn?_org_ne_client means
    rw [parts] at other apart ⊢
    refine @valueIn_fill_default columns [(keyColumn table, key), (clientColumn, _)] _
      (orgColumn, _) nofun null ?_
    intro e member
    rcases List.mem_cons.mp member with rfl | member
    · exact other
    · rwa [List.mem_singleton.mp member]

/-- A row with values for all system columns is complete: nothing is set and no key is drawn. -/
theorem runOn_complete_of_values {table : String} {template : Template} {context : Context}
    {columns : Columns} {listed : Bool} {w : Workspace}
    (given : ∀ n ∈ systemNames table listed, valueIn columns n ≠ .null)
    (known : (Work.hasColumn table activeColumn).runOn w = (.ok listed, w)) :
    (complete table (some template) context columns).runOn w =
      (.ok columns, { w with drawn := w.drawn + 1 }) := by
  have keyed : valueIn columns (keyColumn table) ≠ .null := given _ List.mem_cons_self
  have key : (withKey table columns).runOn w = (.ok columns, w) := by
    unfold withKey
    rw [if_neg keyed]
    rfl
  have complete : fill columns (systemDefaults table template context (.whole 0) listed
      (w.uniqueId w.drawn)) = columns := by
    refine fill_of_values fun n member => given n ?_
    rwa [names_systemDefaults_eq] at member
  rw [fill_systemDefaults, putIfAbsent_of_value keyed] at complete
  unfold Complete.complete
  rw [Work.runOn_bind_of_ok key]
  change ((putIfListed table activeColumn (.text "Y") (withOwner template context columns) >>=
    fun columns => Work.drawId >>= fun id =>
      pure (putIfAbsent (withAudit context columns) uniqueIdColumn (.text id))).runOn w) = _
  unfold putIfListed
  rw [bind_assoc, Work.runOn_bind_of_ok known]
  exact congrArg (fun c => (Except.ok c, { w with drawn := w.drawn + 1 })) complete

theorem runOn_hasColumn_of_lookup {table column : String} {w : Workspace} {answer : Option Int}
    (known : w.memo.found.lookup (columnKey table column) = some answer) :
    (Work.hasColumn table column).runOn w = (.ok answer.isSome, w) := by
  have remembered : w.memo.knows table column = true := by
    unfold Recall.knows
    rw [known]
    rfl
  have located : locate w.store w.memo table column = (answer, w.memo) := by
    unfold locate
    dsimp only
    rw [known]
  unfold Work.hasColumn
  rw [Work.runOn_bind_of_ok (Work.runOn_get w), remembered]
  change (Except.ok (locate w.store w.memo table column).1.isSome,
    { w with memo := (locate w.store w.memo table column).2 }) = _
  rw [located]

/-- Completing a row adds to it and overrides nothing. The names and the values of the row stay; names
of system columns come behind them, each where none agrees with it; every system column has a value
then, and the owner that was missing is the template's or else the context's. The sequence of the table
goes one step on where the row had no key, and gives it, and otherwise the store stays as it is. To
complete the row once more changes nothing and takes no key. Activity is a system column where the
dictionary lists it. -/
theorem complete_never_overrides {table : String} {template : Template} {context : Context}
    {columns completed : Columns} {w w' : Workspace} (sound : w.store.WellFormed)
    (h : (complete table (some template) context columns).runOn w = (.ok completed, w')) :
    Completes table template context (lists w table activeColumn) columns completed ∧
    (w.memo.knows table activeColumn = false →
      lists w table activeColumn = Run.isListed w.store table activeColumn) ∧
    (if valueIn columns (keyColumn table) = .null then
      ∃ r, StepsOn w.store table r w'.store ∧
        valueIn completed (keyColumn table) = (currentNext w.store r).value
    else w'.store = w.store) ∧
    (complete table (some template) context completed).runOn w' =
      (.ok completed, { w' with drawn := w'.drawn + 1 }) := by
  obtain ⟨key, mid, filled, drawn, left⟩ := complete_ok h
  obtain ⟨_, keyed⟩ := Write.draws_keeps sound drawn
  have listed : (locate mid w.memo table activeColumn).1.isSome = lists w table activeColumn := by
    unfold lists
    rw [locate_congr (drawn.table? (by decide +kernel)) (drawn.table? (by decide +kernel))]
  have store : w'.store = mid := by rw [left]
  rw [listed] at filled
  have completes := completes_fill keyed table template context (lists w table activeColumn) columns
    (w.uniqueId w.drawn)
  rw [← filled] at completes
  refine ⟨completes, ?_, ?_, ?_⟩
  · intro unknown
    have missing : w.memo.found.lookup (columnKey table activeColumn) = none :=
      Option.not_isSome_iff_eq_none.mp (Bool.eq_false_iff.mp unknown)
    unfold lists Run.isListed
    rw [locate_fst, missing]
    exact Option.isSome_map
  · rw [store]
    unfold Draws at drawn
    by_cases null : valueIn columns (keyColumn table) = .null
    · rw [if_pos null] at drawn ⊢
      obtain ⟨r, steps, rfl⟩ := nextKey_stepsOn sound drawn
      refine ⟨r, steps, ?_⟩
      obtain ⟨later, parts⟩ := systemDefaults_parts table template context
        (currentNext w.store r).value (lists w table activeColumn) (w.uniqueId w.drawn)
      rw [filled, parts]
      exact @valueIn_fill_default columns [] _ (keyColumn table, _) keyed null nofun
    · rw [if_neg null] at drawn ⊢
      exact drawn.2
  · refine runOn_complete_of_values completes.given ?_
    rw [← listed]
    refine runOn_hasColumn_of_lookup ?_
    rw [left]
    exact lookup_locate mid w.memo table activeColumn

/-- A part with a name and a client that is null under a spelling of its own. -/
def bolt : Columns :=
  [("Name", .text "Bolt"), ("ad_client_id", .null)]

/-- The part gets a client under its own spelling, the key 3, and the other system columns, and nothing
more when it is completed again. -/
theorem complete_never_overrides_bolt : ∃ completed w',
    (complete "Part" (some Run.partTemplate) (.standard (Calendar.Date.midnight ⟨2026, 1, 2⟩))
      bolt).runOn Run.partWorkspace = (.ok completed, w') ∧
    Completes "Part" Run.partTemplate (.standard (Calendar.Date.midnight ⟨2026, 1, 2⟩)) false bolt
      completed ∧
    (∃ r, StepsOn partStore "Part" r w'.store ∧
      valueIn completed "Part_ID" = (currentNext partStore r).value) ∧
    (complete "Part" (some Run.partTemplate) (.standard (Calendar.Date.midnight ⟨2026, 1, 2⟩))
      completed).runOn w' = (.ok completed, { w' with drawn := w'.drawn + 1 }) := by
  have succeeded : ((complete "Part" (some Run.partTemplate)
      (.standard (Calendar.Date.midnight ⟨2026, 1, 2⟩)) bolt).runOn
        Run.partWorkspace).1.toBool = true := by decide +kernel
  have unlisted : lists Run.partWorkspace "Part" activeColumn = false := by decide +kernel
  have keyless : valueIn bolt (keyColumn "Part") = .null := by decide +kernel
  rcases ran : (complete "Part" (some Run.partTemplate)
    (.standard (Calendar.Date.midnight ⟨2026, 1, 2⟩)) bolt).runOn
      Run.partWorkspace with ⟨e | completed, w'⟩
  · rw [ran] at succeeded
    cases succeeded
  · obtain ⟨completes, _, steps, again⟩ := complete_never_overrides
      (show Run.partWorkspace.store.WellFormed from wellFormed_partStore) ran
    rw [unlisted] at completes
    rw [if_pos keyless] at steps
    exact ⟨completed, w', rfl, completes, steps, again⟩

end Complete

end RowLoader
