import RowLoader.Proofs.Diagnostics
import RowLoader.Proofs.KeyedUpdates
import RowLoader.Proofs.StatementTexts
import RowLoader.Proofs.TokenPieces

/-!
Names that a run refuses. A look-up knows its field, and tells where in the header the name that it
refuses is written. A statement knows names alone, and what it refuses is told without a place. Besides
the targets these can only be the name of the table and that of its key column, since the other system
columns have names that pass.
-/

namespace RowLoader

open RowLoader.Header RowLoader.Identifier

namespace Identifier

/-- Where a refused name comes from: with a place, it is one of the three names that the field there
gives to its look-up; without one, it is that of the table, of its key column, or of a target. -/
def Origin (table : String) (fields : List Field) (name : String) : Option Place → Prop
  | some place => ∃ f ∈ fields, placeOf f = place ∧
      (f.lookupTable = some name ∨ f.target = name ∨ f.lookup = some name)
  | none => name = table ∨ name = Complete.keyColumn table ∨ ∃ f ∈ fields, f.target = name

/-- A fault that refuses a name refuses one that does not pass, and tells its origin. -/
def Refuses (table : String) (fields : List Field) : Fault → Prop
  | .setup (.badIdentifier name place) =>
    ∃ n, name = some n ∧ ¬ Passes n ∧ Origin table fields n place
  | _ => True

theorem refuses_of_quotes {table : String} {fields : List Field} {f : Field} {raw : String}
    {row : Int} {e : Fault} (quotes : Resolve.Quotes f raw row e) : Refuses table fields e := by
  obtain ⟨problem, rfl, _⟩ := quotes
  exact trivial

end Identifier

variable {table : String} {fields : List Field}

namespace Resolve

theorem checked_refused {name : String} {place : Option Place} {e : Fault}
    (h : checked (some name) place = .error e) :
    ¬ Passes name ∧ e = .setup (.badIdentifier (some name) place) := by
  refine ⟨?_, checked_fault h⟩
  rw [← isPlain_iff]
  intro plain
  unfold checked at h
  dsimp only at h
  rw [if_pos plain] at h
  cases h

theorem refuses_of_checked {f : Field} (member : f ∈ fields) {name : String}
    (given : f.lookupTable = some name ∨ f.target = name ∨ f.lookup = some name) {e : Fault}
    (h : checked (some name) (some (placeOf f)) = .error e) : Refuses table fields e := by
  obtain ⟨refused, rfl⟩ := checked_refused h
  exact ⟨name, rfl, refused, f, member, rfl, given⟩

theorem refuses_of_lookupNames {f : Field} (member : f ∈ fields) (searched : f.lookup.isSome = true)
    {e : Fault} (h : lookupNames f = .error e) : Refuses table fields e := by
  obtain ⟨column, looked⟩ := Option.isSome_iff_exists.mp searched
  obtain ⟨lookupTable, within⟩ : ∃ t, f.lookupTable = some t :=
    ⟨_, by rw [Field.lookupTable, looked, Option.map_some]⟩
  unfold lookupNames at h
  rw [looked, within] at h
  rcases except_bind_error h with failed | ⟨_, _, h⟩
  · exact refuses_of_checked member (.inl within) failed
  · rcases except_bind_error h with failed | ⟨_, _, h⟩
    · exact refuses_of_checked member (.inr (.inl rfl)) failed
    · rcases except_bind_error h with failed | ⟨_, _, h⟩
      · exact refuses_of_checked member (.inr (.inr looked)) failed
      · cases h

theorem faultsIn_resolve_refuses {f : Field} (member : f ∈ fields) (raw : Option String) (row : Int) :
    Work.FaultsIn (Refuses table fields) (resolve table f raw row) :=
  faultsIn_resolve table (fun _ _ _ quotes => refuses_of_quotes quotes)
    fun _ searched failed => refuses_of_lookupNames member searched failed

theorem target_of_resolveRow {record : Source.Record} {columns : Columns} {w w' : Workspace}
    (h : (resolveRow table record [] fields).runOn w = (.ok columns, w')) :
    ∀ n ∈ columns.names, ∃ f ∈ fields, f.target = n := by
  rw [runOn_resolveRow] at h
  obtain ⟨values, _, each, ended⟩ := Work.bind_ok h
  obtain ⟨rfl, _⟩ := Work.pure_ok ended
  rw [Complete.names_enterValues (length_of_resolveEach each)]
  exact fun n member => List.mem_map.mp (Run.mem_targetNames member)

end Resolve

namespace Write

open RowLoader.Complete RowLoader.Store RowLoader.Dictionary

theorem passes_defaultNames {n : String} (member : n ∈ defaultNames) : Passes n := by
  have plain : ∀ n ∈ defaultNames, isPlain n = true := by decide +kernel
  exact isPlain_iff.mp (plain n member)

/-- What a statement refuses has its origin where all its names have one that do not pass. -/
theorem refuses_of_assemble {st : Statement}
    (origins : ∀ n ∈ st.mentioned, Passes n ∨ Origin table fields n none) {e : Fault}
    (h : st.assemble = .error e) : Refuses table fields e := by
  obtain ⟨n, member, refused, failed⟩ := Statement.assemble_refused (by rw [h]; nofun)
  cases h.symm.trans failed
  exact ⟨n, rfl, refused, (origins n member).resolve_left refused⟩

theorem mem_names_of_complete {template : Template} {context : Context} {columns completed : Columns}
    {w w' : Workspace}
    (h : (complete table (some template) context columns).runOn w = (.ok completed, w')) {n : String}
    (member : n ∈ completed.names) : n ∈ columns.names ∨ n = Complete.keyColumn table ∨ Passes n := by
  obtain ⟨key, mid, rfl, _⟩ := complete_ok h
  rw [names_fill_eq] at member
  refine (Run.mem_foldl_names (fun _ _ _ => Run.mem_addName) member).imp_right fun default => ?_
  exact (names_systemDefaults default).imp_right passes_defaultNames

theorem mem_names_of_putIfListed {name : String} {value : Value} {columns extended : Columns}
    {w w' : Workspace} (h : (putIfListed table name value columns).runOn w = (.ok extended, w'))
    {n : String} (member : n ∈ extended.names) : n ∈ columns.names ∨ n = name := by
  obtain ⟨rfl, _⟩ := putIfListed_ok h
  split at member
  · rw [names_putIfAbsent_eq] at member
    exact Run.mem_addName member
  · exact .inl member

theorem mem_names_of_withChange {context : Context} {sets changed : Columns} {w w' : Workspace}
    (h : (withChange table context sets).runOn w = (.ok changed, w')) {n : String}
    (member : n ∈ changed.names) : n ∈ sets.names ∨ Passes n := by
  obtain ⟨mid, _, time, user⟩ := Work.bind_ok h
  rcases mem_names_of_putIfListed user member with before | rfl
  · refine (mem_names_of_putIfListed time before).imp_right ?_
    rintro rfl
    exact passes_defaultNames (by decide)
  · exact .inr (passes_defaultNames (by decide))

section

variable {columns : Columns}
  (targets : ∀ n ∈ columns.names, ∃ f ∈ fields, f.target = n)
include targets

theorem faultsIn_insert_refuses (template : Template) (context : Context) (row : Int) :
    Work.FaultsIn (Refuses table fields) (insert table (some template) context columns row) := by
  refine faultsIn_insert row trivial fun w completed w' filled e failed => ?_
  refine @refuses_of_assemble table fields (.insert table completed) ?_ e failed
  intro n member
  rcases List.mem_cons.mp member with rfl | column
  · exact .inr (.inl rfl)
  · rcases mem_names_of_complete filled column with own | key | passes
    · exact .inr (.inr (.inr (targets n own)))
    · exact .inr (.inr (.inl key))
    · exact .inl passes

theorem faultsIn_update_refuses (template : Template) (context : Context) (row : Int) :
    Work.FaultsIn (Refuses table fields)
      (update table (some template) context fields columns row) := by
  refine faultsIn_update (fun _ _ _ => trivial) fun sets conditions among compared => ?_
  refine faultsIn_change fun w changed w' stamped e failed => ?_
  refine @refuses_of_assemble table fields (.update table changed conditions) ?_ e failed
  intro n member
  rcases List.mem_cons.mp member with rfl | column
  · exact .inr (.inl rfl)
  · rcases List.mem_append.mp column with set | condition
    · rcases mem_names_of_withChange stamped set with own | passes
      · exact .inr (.inr (.inr (targets n (among n own))))
      · exact .inl passes
    · obtain ⟨c, inside, rfl⟩ := List.mem_map.mp condition
      rcases compared c inside with client | key
      · rw [client]
        exact .inl (passes_defaultNames (by decide))
      · exact .inr (.inr (.inr key))

end

end Write

namespace Run

open RowLoader.Dictionary

theorem faultsIn_writeRecord_refuses (template : Template) (context : Context) (mode : Action)
    (record : Source.Record) :
    Work.FaultsIn (Refuses table fields)
      (writeRecord table template context mode fields record) := by
  have resolved : ∀ f ∈ fields, ∀ raw, record.cell f = .ok raw →
      Work.FaultsIn (Refuses table fields) (Resolve.resolve table f raw record.row) :=
    fun f member raw _ => Resolve.faultsIn_resolve_refuses member raw record.row
  refine (Resolve.faultsIn_resolveRow table record [] resolved).bind ?_
  intro _ columns _ ran
  have targets := Resolve.target_of_resolveRow ran
  split
  · exact Write.faultsIn_update_refuses targets template context record.row
  · exact Write.faultsIn_insert_refuses targets template context record.row

/-- The names that a field gives to its look-up are written in its token. -/
theorem given_isInfix {token name : String} {position : Int}
    (given : (Field.read (some token) position).lookupTable = some name ∨
      (Field.read (some token) position).target = name ∨
      (Field.read (some token) position).lookup = some name) :
    name.toList <:+: (Text.trim token).toList := by
  obtain ⟨path, lookup⟩ := read_isInfix token position
  rcases given with searched | rfl | looked
  · exact lookupTable_isInfix token position name searched
  · exact path _ (by simp [Field.path])
  · exact lookup name looked

/-- A run that ends in a refused name has a file and a table, and the name has its origin. -/
theorem origin_of_runLines {template : Template} {context : Context} {mode : Action}
    {lines : List String} {w : Workspace} {name : Option String} {place : Option Place}
    (failed : ((runLines (some template) context mode lines).runOn w).1 =
      .error (.fault (.setup (.badIdentifier name place)))) :
    ∃ head rest table n, lines = head :: rest ∧ ((tableOf template).runOn w).1 = .ok table ∧
      name = some n ∧ ¬ Passes n ∧
      Origin table (headerFields template.header head) n place := by
  rcases runLines_fault failed with refused | missing | unplanned | ⟨table, p, named, planned, ended⟩
  · cases mode <;> cases refused
  · cases missing
  · cases lines with
    | nil => cases unplanned
    | cons head rest => cases (plan_cons _ _ _).symm.trans unplanned
  · cases lines with
    | nil => cases planned
    | cons head rest =>
        cases (plan_cons _ _ _).symm.trans planned
        rcases ended with ⟨first, _, other⟩ | ⟨_, record, _, v, v', written⟩
        · cases other
        · obtain ⟨n, rfl, refused, origin⟩ :=
            faultsIn_writeRecord_refuses template context mode record v _ v' written
          exact ⟨head, rest, table, n, rfl, named, rfl, refused, origin⟩

/-- Of a name that a look-up refuses a run tells the column and the trimmed token of the header in which
the name is written. Only names that a statement refuses are told without one: those of the table, of
its key column, and of targets. -/
theorem refused_name_told_by_token {template : Template} {context : Context} {mode : Action}
    {lines : List String} {w : Workspace} {name : Option String} {place : Option Place}
    (failed : ((runLines (some template) context mode lines).runOn w).1 =
      .error (.fault (.setup (.badIdentifier name place)))) :
    ∃ head rest table n, lines = head :: rest ∧ ((tableOf template).runOn w).1 = .ok table ∧
      name = some n ∧ ¬ Passes n ∧
      (∀ p, place = some p → ∃ token,
        entryAt? (headerOf template.header head).1 p.column = some token ∧
        n.toList <:+: (Text.trim token).toList ∧
        (Fault.setup (.badIdentifier name place)).details =
          [("column", .whole p.column), ("token", .text (Text.trim token)),
            ("identifier", .text n)]) ∧
      (place = none → n = table ∨ n = Complete.keyColumn table ∨
        ∃ f ∈ headerFields template.header head, f.target = n) := by
  obtain ⟨head, rest, table, n, rfl, named, rfl, refused, origin⟩ := origin_of_runLines failed
  refine ⟨head, rest, table, n, rfl, named, rfl, refused, ?_, ?_⟩
  · rintro p rfl
    obtain ⟨f, member, rfl, given⟩ := origin
    obtain ⟨token, there, same⟩ := Source.read_of_mem_read member
    have label : f.label = Text.trim token := by rw [same, label_read]
    refine ⟨token, there, ?_, ?_⟩
    · rw [same] at given
      exact given_isInfix given
    · rw [← label]
      rfl
  · rintro rfl
    exact origin

/-- A look-up column that is no identifier is told with its token. -/
theorem unfit_column_told_by_token :
    ((runLines (some partTemplate) (.standard (Calendar.Date.midnight ⟨2026, 1, 2⟩)) .insert
        ["Value;Amount [Na me]", "A;B"]).runOn partWorkspace).1 =
      .error (.fault (.setup (.badIdentifier (some "Na me") (some ⟨2, "Amount [Na me]"⟩)))) ∧
      "Na me".toList <:+: "Amount [Na me]".toList := by
  have failed : ((runLines (some partTemplate) (.standard (Calendar.Date.midnight ⟨2026, 1, 2⟩))
      .insert ["Value;Amount [Na me]", "A;B"]).runOn partWorkspace).1 =
      .error (.fault (.setup (.badIdentifier (some "Na me") (some ⟨2, "Amount [Na me]"⟩)))) := by
    decide +kernel
  obtain ⟨head, rest, table, n, lines, _, named, _, told, _⟩ := refused_name_told_by_token failed
  obtain ⟨rfl, _⟩ := List.cons_eq_cons.mp lines
  cases named
  obtain ⟨token, there, written, _⟩ := told _ rfl
  have header : (headerOf partTemplate.header "Value;Amount [Na me]").1 =
      ["Value", "Amount [Na me]"] := by decide +kernel
  rw [header] at there
  cases there
  exact ⟨failed, written⟩

/-- A target that is no identifier is told without its token, though it is the second of the header. -/
theorem unfit_target_told_alone :
    ((runLines (some partTemplate) (.standard (Calendar.Date.midnight ⟨2026, 1, 2⟩)) .insert
        ["Value;Na me", "A;B"]).runOn partWorkspace).1 =
      .error (.fault (.setup (.badIdentifier (some "Na me") none))) ∧
      (Fault.setup (.badIdentifier (some "Na me") none)).details = [("identifier", .text "Na me")] ∧
      entryAt? (headerOf partTemplate.header "Value;Na me").1 2 = some "Na me" := by
  decide +kernel

end Run

end RowLoader
