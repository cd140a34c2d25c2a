import RowLoader.Proofs.Completion
import RowLoader.Proofs.Execution
import RowLoader.Proofs.Keys
import RowLoader.Proofs.Resolution
import RowLoader.Run

/-!
Writing a record in two parts. First a statement is prepared: the record is resolved, and its row is
completed or stamped. Then that one statement is executed, or none where there is nothing to update.
-/

namespace RowLoader

open RowLoader.Header RowLoader.Dictionary RowLoader.Store RowLoader.Complete RowLoader.Resolve

namespace Dictionary

theorem lookup_locate (s : Store) (m : Recall) (table column : String) :
    (locate s m table column).2.found.lookup (columnKey table column) =
      some (locate s m table column).1 := by
  unfold locate
  dsimp only
  cases known : m.found.lookup (columnKey table column) with
  | some answer => exact known
  | none =>
      cases find? s (columnKey table column).1 (columnKey table column).2 with
      | none => exact List.lookup_cons_self
      | some r =>
          dsimp only
          unfold Recall.note
          split <;> exact List.lookup_cons_self

theorem Recall.Extends.lookup {s : Store} {m m' : Recall} (more : m.Extends s m')
    {key : ColumnKey} {answer : Option Int} (known : m.found.lookup key = some answer) :
    m'.found.lookup key = some answer := by
  rcases more.found key with same | ⟨unknown, _⟩
  · rw [same, known]
  · rw [unknown] at known
    cases known

end Dictionary

namespace Resolve

def Asks {α : Type} (x : Work α) : Prop :=
  ∀ w, w.breakdown = none → Asked w (x.runOn w).2

variable {α β : Type}

theorem asks_of_same {x : Work α} (same : ∀ w, (x.runOn w).2 = w) : Asks x := by
  intro w _
  rw [same]
  exact .refl w

theorem asks_pure (a : α) : Asks (pure a : Work α) := asks_of_same fun _ => rfl

theorem asks_ofExcept (x : Except Failure α) : Asks (Work.ofExcept x) := asks_of_same fun _ => rfl

theorem Asks.bind {x : Work α} {f : α → Work β} (first : Asks x) (next : ∀ a, Asks (f a)) :
    Asks (x >>= f) := by
  intro w usable
  have asked := first w usable
  rw [Work.runOn_bind]
  generalize x.runOn w = answer at asked ⊢
  obtain ⟨e | a, mid⟩ := answer
  · exact asked
  · exact asked.trans (next a mid (asked.breakdown.trans usable))

theorem Asks.of_runOn {x : Work α} (asks : Asks x) {w w' : Workspace} {r : Except Failure α}
    (usable : w.breakdown = none) (h : x.runOn w = (r, w')) : Asked w w' := by
  have asked := asks w usable
  rw [h] at asked
  exact asked

theorem asks_resolve (table : String) (f : Field) (raw : Option String) (row : Int) :
    Asks (resolve table f raw row) := by
  intro w usable
  obtain ⟨w', ran, asked⟩ := runOn_resolve usable table f raw row
  rw [ran]
  exact asked

theorem asks_resolveEach (table : String) (record : Source.Record) (fields : List Field) :
    Asks (resolveEach table record fields) := by
  induction fields with
  | nil => exact asks_pure _
  | cons f rest ih =>
      exact (asks_ofExcept _).bind fun raw => (asks_resolve table f raw record.row).bind
        fun v => ih.bind fun others => asks_pure _

/-- A record is resolved to one value for each field, and they stand under the targets. -/
theorem resolveRow_ok {table : String} {record : Source.Record} {fields : List Field}
    {w w' : Workspace} {columns : Columns} (usable : w.breakdown = none)
    (h : (resolveRow table record [] fields).runOn w = (.ok columns, w')) :
    ∃ values, (resolveEach table record fields).runOn w = (.ok values, w') ∧
      columns = enterValues [] (fields.zip values) ∧ values.length = fields.length ∧
      Asked w w' := by
  rw [runOn_resolveRow] at h
  obtain ⟨values, mid, each, ended⟩ := Work.bind_ok h
  obtain ⟨rfl, rfl⟩ := Work.pure_ok ended
  exact ⟨values, each, rfl, length_of_resolveEach each,
    (asks_resolveEach table record fields).of_runOn usable each⟩

end Resolve

namespace Complete

def lists (w : Workspace) (table column : String) : Bool :=
  (locate w.store w.memo table column).1.isSome

theorem lists_of_asked {w w' : Workspace} (asked : Asked w w') (table column : String) :
    (locate w'.store w'.memo table column).1 = (locate w.store w.memo table column).1 := by
  rw [asked.store]
  exact locate_of_extends asked.more table column

def Remembers (w w' : Workspace) (table column : String) : Prop :=
  w'.memo.found.lookup (columnKey table column) = some (locate w.store w.memo table column).1

theorem runOn_hasColumn_asked {w : Workspace} (usable : w.breakdown = none)
    (table column : String) : ∃ w', (Work.hasColumn table column).runOn w =
      (.ok (lists w table column), w') ∧ Asked w w' ∧ Remembers w w' table column := by
  have answer := Work.runOn_hasColumn usable table column
  rcases ran : (Work.hasColumn table column).runOn w with ⟨r, w'⟩
  rw [ran] at answer
  cases answer
  obtain ⟨_, same⟩ := Work.hasColumn_ok ran
  refine ⟨w', rfl, ⟨?_, w'.isOpen, ?_⟩, ?_⟩
  · rw [same]
    exact extends_locate w.store w.memo table column
  · rw [same]
  · unfold Remembers
    rw [same]
    exact lookup_locate w.store w.memo table column

theorem runOn_putIfListed {w : Workspace} (usable : w.breakdown = none) (table name : String)
    (value : Value) (columns : Columns) : ∃ w', (putIfListed table name value columns).runOn w =
      (.ok (if lists w table name then putIfAbsent columns name value else columns), w') ∧
      Asked w w' ∧ Remembers w w' table name := by
  obtain ⟨w', ran, asked, known⟩ := runOn_hasColumn_asked usable table name
  refine ⟨w', ?_, asked, known⟩
  unfold putIfListed
  rw [Work.runOn_bind_of_ok ran]
  rfl

theorem Draws.table? {s after : Store} {table : String} {columns : Columns} {key : Value}
    (drawn : Draws s table columns key after) {name : String}
    (other : Text.sameName sequenceTable name = false) : after.table? name = s.table? name := by
  unfold Draws at drawn
  split at drawn
  · exact nextKey_table? drawn other
  · rw [drawn.2]

/-- Add a name behind others, unless one of them agrees with it in upper case. -/
def addName (names : List String) (name : String) : List String :=
  if names.any (fun n => Text.upper n = Text.upper name) then names else names ++ [name]

theorem names_put (columns : Columns) (name : String) (v : Value) :
    (columns.put name v).names =
      if name ∈ columns.names then columns.names else columns.names ++ [name] := by
  split
  · exact Columns.names_put_of_mem v ‹_›
  · exact Columns.names_put_of_not_mem v ‹_›

theorem any_upper_iff {columns : Columns} {name : String} :
    columns.names.any (fun n => Text.upper n = Text.upper name) = true ↔
      nameIn? columns name ≠ none := by
  rw [List.any_eq_true, ne_eq, nameIn?_eq_none]
  simp

theorem names_putIfAbsent_eq (columns : Columns) (name : String) (value : Value) :
    (putIfAbsent columns name value).names = addName columns.names name := by
  unfold addName
  cases found : nameIn? columns name with
  | none =>
      have absent : ¬ columns.names.any (fun n => Text.upper n = Text.upper name) = true :=
        fun present => any_upper_iff.mp present found
      have missing : name ∉ columns.names := fun member => nameIn?_eq_none.mp found name member rfl
      unfold putIfAbsent
      rw [if_neg absent, if_pos (valueIn_of_absent found), found]
      exact Columns.names_put_of_not_mem value missing
  | some n =>
      have present := any_upper_iff.mpr (by rw [found]; exact Option.some_ne_none n)
      unfold putIfAbsent
      rw [if_pos present, found]
      split
      · exact Columns.names_put_of_mem value (nameIn?_some found).1
      · rfl

theorem names_fill_eq (columns defaults : Columns) :
    (fill columns defaults).names = defaults.names.foldl addName columns.names := by
  induction defaults generalizing columns with
  | nil => rfl
  | cons d rest ih =>
      have step : (fill columns (d :: rest)).names =
          (Columns.names rest).foldl addName (putIfAbsent columns d.1 d.2).names := ih _
      rw [step, names_putIfAbsent_eq]
      rfl

/-- The names under which the values of some targets stand: each where it comes first. -/
def targetNames (targets : List String) : List String :=
  targets.foldl (fun names n => if n ∈ names then names else names ++ [n]) []

theorem names_enterValues {fields : List Field} {values : List Value}
    (each : values.length = fields.length) :
    (enterValues [] (fields.zip values)).names = targetNames (fields.map Field.target) := by
  have general : ∀ (pairs : List (Field × Value)) (columns : Columns),
      (enterValues columns pairs).names =
        (pairs.map (·.1.target)).foldl (fun names n => if n ∈ names then names else names ++ [n])
          columns.names := by
    intro pairs
    induction pairs with
    | nil =>
        intro columns
        rfl
    | cons p rest ih =>
        intro columns
        have step := ih (columns.put p.1.target p.2)
        rw [names_put] at step
        exact step
  have ends : (fields.zip values).map Prod.fst = fields := List.map_fst_zip each.ge
  have fronts : (fields.zip values).map (·.1.target) = fields.map Field.target := by
    conv_rhs => rw [← ends, List.map_map]
    rfl
  have whole := general (fields.zip values) []
  rw [fronts] at whole
  exact whole

end Complete

namespace Write

def prepareInsert (table : String) (template : Option Template) (context : Context)
    (columns : Columns) : Work Statement := do
  let columns ← complete table template context columns
  Work.ofFault (Statement.makeInsert table columns)

def prepareChange (table : String) (context : Context) (sets : Columns)
    (conditions : List (String × Value)) : Work Statement := do
  let sets ← withChange table context sets
  Work.ofFault (Statement.makeUpdate table sets conditions)

/-- The statement of a row to be updated by key fields, none where there is nothing to update. -/
def prepareKeyed (table : String) (context : Context) (first : Field) (keyFields : List Field)
    (columns : Columns) (row : Int) : Work (Option Statement) := do
  let conditions := keyConditions keyFields columns
  let sets := withoutKeys keyFields columns
  if conditions.any (fun c => c.2 = .null) then
    Work.ofFault (.error (notFound row first conditions))
  else if sets.isEmpty then return none
  else some <$> prepareChange table context sets conditions

def prepareBulk (table : String) (template : Option Template) (context : Context)
    (columns : Columns) : Work (Option Statement) := do
  let conditions := bulkConditions (← needed template) context
  if columns.isEmpty then return none
  else some <$> prepareChange table context columns conditions

def prepareUpdate (table : String) (template : Option Template) (context : Context)
    (fields : List Field) (columns : Columns) (row : Int) : Work (Option Statement) :=
  match keys fields with
  | [] => prepareBulk table template context columns
  | first :: rest => prepareKeyed table context first (first :: rest) columns row

/-- What is answered for a row whose statement has affected some records. A keyed update that affects
none is a fault. -/
def conclude (fields : List Field) (row : Int) (statement : Statement) (affected : Nat) :
    Except Fault Outcome :=
  match statement with
  | .insert .. => .ok ⟨row, .insert, affected, ""⟩
  | .update _ _ conditions =>
    match keys fields with
    | [] => .ok ⟨row, .update, affected, predicate conditions⟩
    | first :: _ =>
      if affected = 0 then .error (notFound row first conditions)
      else .ok ⟨row, .update, affected, predicate conditions⟩

def finish (fields : List Field) (row : Int) : Option Statement → Work Outcome
  | none => return nothingToUpdate row
  | some statement => do
    let affected ← Work.execute statement
    Work.ofFault (conclude fields row statement affected)

/-- The time and the user of a change, each set where the dictionary lists the column and the row has no
value there. -/
def stamped (context : Context) (listed : String → Bool) (sets : Columns) : Columns :=
  let sets := if listed "Updated" then putIfAbsent sets "Updated" (.moment context.now) else sets
  if listed "UpdatedBy" then putIfAbsent sets "UpdatedBy" (.whole context.user) else sets

def stampNames : List String := ["Updated", "UpdatedBy"]

theorem runOn_withChange {w : Workspace} (usable : w.breakdown = none) (table : String)
    (context : Context) (sets : Columns) : ∃ w', (withChange table context sets).runOn w =
      (.ok (stamped context (lists w table) sets), w') ∧ Asked w w' ∧
      ∀ c ∈ stampNames, Remembers w w' table c := by
  obtain ⟨mid, first, asked, known⟩ :=
    runOn_putIfListed usable table "Updated" (.moment context.now) sets
  obtain ⟨w', second, later, also⟩ := runOn_putIfListed (asked.breakdown.trans usable) table
    "UpdatedBy" (.whole context.user)
    (if lists w table "Updated" then putIfAbsent sets "Updated" (.moment context.now) else sets)
  have same := lists_of_asked asked table "UpdatedBy"
  refine ⟨w', ?_, asked.trans later, ?_⟩
  · unfold withChange stamped
    rw [Work.runOn_bind_of_ok first, second]
    unfold lists
    rw [same]
  · intro c member
    simp only [stampNames, List.mem_cons, List.not_mem_nil, or_false] at member
    rcases member with rfl | rfl
    · exact later.more.lookup known
    · unfold Remembers at also ⊢
      rw [also, same]

def namesStamped (listed : String → Bool) (names : List String) : List String :=
  (stampNames.filter listed).foldl addName names

theorem names_stamped (context : Context) (listed : String → Bool) (sets : Columns) :
    (stamped context listed sets).names = namesStamped listed sets.names := by
  unfold stamped namesStamped stampNames
  cases updated : listed "Updated" <;> cases user : listed "UpdatedBy" <;>
    simp [updated, user, names_putIfAbsent_eq]

theorem prepareChange_ok {table : String} {context : Context} {sets : Columns}
    {conditions : List (String × Value)} {w w' : Workspace} {statement : Statement}
    (usable : w.breakdown = none)
    (h : (prepareChange table context sets conditions).runOn w = (.ok statement, w')) :
    statement = .update table (stamped context (lists w table) sets) conditions ∧ Asked w w' ∧
      ∀ c ∈ stampNames, Remembers w w' table c := by
  unfold prepareChange at h
  obtain ⟨changed, ran, asked, known⟩ := runOn_withChange usable table context sets
  rw [Work.runOn_bind_of_ok ran] at h
  obtain ⟨made, rfl⟩ := Work.ofFault_ok h
  exact ⟨Statement.makeUpdate_eq made, asked, known⟩

def conditionsFor (template : Template) (context : Context) (fields : List Field)
    (columns : Columns) : List (String × Value) :=
  match keys fields with
  | [] => bulkConditions template context
  | first :: rest => keyConditions (first :: rest) columns

theorem withoutKeys_nil (columns : Columns) : withoutKeys [] columns = columns := by
  unfold withoutKeys
  simp

theorem prepareUpdate_ok {table : String} {template : Template} {context : Context}
    {fields : List Field} {columns : Columns} {row : Int} {w w' : Workspace}
    {prepared : Option Statement} (usable : w.breakdown = none)
    (h : (prepareUpdate table (some template) context fields columns row).runOn w =
      (.ok prepared, w')) :
    Asked w w' ∧ ∀ statement, prepared = some statement →
      statement = .update table (stamped context (lists w table) (withoutKeys (keys fields) columns))
        (conditionsFor template context fields columns) ∧
      ∀ c ∈ stampNames, Remembers w w' table c := by
  have changed : ∀ {sets : Columns} {conditions : List (String × Value)},
      ((some <$> prepareChange table context sets conditions).runOn w = (.ok prepared, w')) →
      Asked w w' ∧ ∀ statement, prepared = some statement →
        statement = .update table (stamped context (lists w table) sets) conditions ∧
        ∀ c ∈ stampNames, Remembers w w' table c := by
    intro sets conditions h
    rw [map_eq_pure_bind] at h
    obtain ⟨made, mid, ran, h⟩ := Work.bind_ok h
    obtain ⟨rfl, rfl⟩ := Work.pure_ok h
    obtain ⟨same, asked, known⟩ := prepareChange_ok usable ran
    refine ⟨asked, ?_⟩
    rintro statement ⟨⟩
    exact ⟨same, known⟩
  have skipped : ((pure none : Work (Option Statement)).runOn w = (.ok prepared, w')) →
      Asked w w' ∧ ∀ statement, prepared ≠ some statement := by
    intro h
    obtain ⟨rfl, rfl⟩ := Work.pure_ok h
    exact ⟨.refl _, nofun⟩
  unfold prepareUpdate at h
  unfold conditionsFor
  cases keyed : keys fields with
  | nil =>
      rw [keyed] at h
      rw [withoutKeys_nil]
      dsimp only at h ⊢
      unfold prepareBulk at h
      rw [Work.runOn_bind_of_ok (show (needed (some template)).runOn w = (.ok template, w) from rfl)]
        at h
      dsimp only at h
      split at h
      · exact ⟨(skipped h).1, fun statement same => absurd same ((skipped h).2 statement)⟩
      · exact changed h
  | cons first rest =>
      rw [keyed] at h
      dsimp only at h ⊢
      unfold prepareKeyed at h
      dsimp only at h
      split at h
      · cases h
      · split at h
        · exact ⟨(skipped h).1, fun statement same => absurd same ((skipped h).2 statement)⟩
        · exact changed h

theorem prepareInsert_ok {table : String} {template : Template} {context : Context}
    {columns : Columns} {w w' : Workspace} {statement : Statement}
    (h : (prepareInsert table (some template) context columns).runOn w = (.ok statement, w')) :
    ∃ key mid, Draws w.store table columns key mid ∧
      statement = .insert table (fill columns (systemDefaults table template context key
        (lists w table activeColumn) (w.uniqueId w.drawn))) ∧
      Remembers w w' table activeColumn ∧ w'.breakdown = w.breakdown := by
  unfold prepareInsert at h
  obtain ⟨completed, last, filled, h⟩ := Work.bind_ok h
  obtain ⟨made, rfl⟩ := Work.ofFault_ok h
  obtain ⟨key, mid, rfl, drawn, same⟩ := complete_ok filled
  have listed := locate_congr (drawn.table? (by decide +kernel : _ = false))
    (drawn.table? (by decide +kernel : _ = false)) w.memo table activeColumn
  refine ⟨key, mid, drawn, ?_, ?_, ?_⟩
  · rw [Statement.makeInsert_eq made, listed]
    rfl
  · unfold Remembers
    rw [same, ← listed]
    exact lookup_locate mid w.memo table activeColumn
  · rw [same]

theorem makeUpdate_bind {β : Type} (table : String) (sets : Columns)
    (conditions : List (String × Value)) {f g : Statement → Work β}
    (agree : ∀ changed, f (.update table changed conditions) = g (.update table changed conditions)) :
    (Work.ofFault (Statement.makeUpdate table sets conditions) >>= f) =
      (Work.ofFault (Statement.makeUpdate table sets conditions) >>= g) := by
  cases made : Statement.makeUpdate table sets conditions with
  | error e => rfl
  | ok statement =>
      rw [Statement.makeUpdate_eq made]
      exact agree sets

theorem insert_eq (table : String) (template : Option Template) (context : Context)
    (fields : List Field) (columns : Columns) (row : Int) :
    insert table template context columns row =
      (some <$> prepareInsert table template context columns) >>= finish fields row := by
  unfold insert prepareInsert
  simp only [map_eq_pure_bind, bind_assoc, pure_bind]
  congr 1
  funext completed
  cases made : Statement.makeInsert table completed with
  | error e => rfl
  | ok statement =>
      rw [Statement.makeInsert_eq made]
      rfl

theorem updateKeyed_eq (table : String) (context : Context) {fields : List Field} {first : Field}
    {rest : List Field} (keyed : keys fields = first :: rest) (columns : Columns) (row : Int) :
    updateKeyed table context first (first :: rest) columns row =
      prepareKeyed table context first (first :: rest) columns row >>= finish fields row := by
  unfold updateKeyed prepareKeyed
  dsimp only
  split
  · rfl
  · split
    · rfl
    · unfold change prepareChange
      simp only [bind_assoc, map_eq_pure_bind, pure_bind]
      congr 1
      funext sets
      refine makeUpdate_bind _ _ _ ?_
      intro changed
      unfold finish conclude
      rw [keyed]
      dsimp only
      congr 1
      funext affected
      split <;> rfl

theorem updateBulk_eq (table : String) (template : Option Template) (context : Context)
    {fields : List Field} (unkeyed : keys fields = []) (columns : Columns) (row : Int) :
    updateBulk table template context columns row =
      prepareBulk table template context columns >>= finish fields row := by
  unfold updateBulk prepareBulk
  rw [bind_assoc]
  congr 1
  funext t
  dsimp only
  split
  · rfl
  · unfold change prepareChange
    simp only [bind_assoc, map_eq_pure_bind, pure_bind]
    congr 1
    funext sets
    refine makeUpdate_bind _ _ _ ?_
    intro changed
    unfold finish conclude
    rw [unkeyed]
    rfl

theorem update_eq (table : String) (template : Option Template) (context : Context)
    (fields : List Field) (columns : Columns) (row : Int) :
    update table template context fields columns row =
      prepareUpdate table template context fields columns row >>= finish fields row := by
  unfold update prepareUpdate
  cases keyed : keys fields with
  | nil => exact updateBulk_eq table template context keyed columns row
  | cons first rest => exact updateKeyed_eq table context keyed columns row

end Write

namespace Run

open RowLoader.Write RowLoader.Source

/-- The statement of a record, none where there is nothing to update. -/
def prepareRecord (table : String) (template : Template) (context : Context) (mode : Action)
    (fields : List Field) (record : Record) : Work (Option Statement) := do
  let columns ← resolveRow table record [] fields
  match mode with
  | .update => prepareUpdate table (some template) context fields columns record.row
  | _ => some <$> prepareInsert table (some template) context columns

/-- A record is written by preparing its statement and executing just that. -/
theorem writeRecord_eq (table : String) (template : Template) (context : Context) (mode : Action)
    (fields : List Field) (record : Record) :
    writeRecord table template context mode fields record =
      prepareRecord table template context mode fields record >>= finish fields record.row := by
  unfold writeRecord prepareRecord
  rw [bind_assoc]
  congr 1
  funext columns
  cases mode with
  | update => exact update_eq table (some template) context fields columns record.row
  | _ => exact insert_eq table (some template) context fields columns record.row

end Run

end RowLoader
