import RowLoader.Proofs.Preparation
import RowLoader.Proofs.Validation

/-!
Texts without cells. The text of a statement and the names of its parameters are those of the statement
without values; and what a row executes is, without values, settled by the header and the dictionary.
-/

namespace RowLoader

open RowLoader.Header RowLoader.Dictionary RowLoader.Store RowLoader.Complete RowLoader.Resolve

namespace Store.Statement

def named : Statement → List (String × Value)
  | .insert _ columns => columns
  | .update _ sets conditions => sets ++ conditions

def nulls (names : List String) : List (String × Value) :=
  names.map fun n => (n, .null)

/-- A statement without its values. -/
def shape : Statement → Statement
  | .insert table columns => .insert table (nulls columns.names)
  | .update table sets conditions =>
    .update table (nulls sets.names) (nulls (conditions.map (·.1)))

def numbered : Statement → List String
  | .insert _ columns => parameterNames "v" columns.length
  | .update _ sets conditions =>
    parameterNames "s" sets.length ++ parameterNames "w" conditions.length

theorem names_nulls (names : List String) : (nulls names).map (·.1) = names := by
  unfold nulls
  rw [List.map_map]
  exact List.map_id _

theorem length_nulls (names : List String) : (nulls names).length = names.length :=
  List.length_map _

theorem length_parameterNames (letter : String) (count : Nat) :
    (parameterNames letter count).length = count := by
  unfold parameterNames
  rw [List.length_map, List.length_range]

theorem render_shape (st : Statement) : st.shape.render = st.render := by
  unfold render shape
  cases st <;> simp only [Columns.names, names_nulls, length_nulls, List.length_map]

theorem numbered_shape (st : Statement) : st.shape.numbered = st.numbered := by
  cases st <;> simp only [shape, numbered, Columns.names, length_nulls, List.length_map]

theorem length_numbered (st : Statement) : st.numbered.length = st.named.length := by
  cases st <;> simp only [numbered, named, List.length_append, length_parameterNames]

theorem parameters_eq (st : Statement) :
    st.parameters = st.numbered.zip (st.named.map (·.2)) := by
  cases st with
  | insert table columns => rfl
  | update table sets conditions =>
      have even : (parameterNames "s" sets.length).length = (sets.map (·.2)).length := by
        rw [length_parameterNames, List.length_map]
      unfold parameters numbered named
      rw [List.map_append, List.zip_append even]
      rfl

theorem nodup_parameterNames (letter : String) (count : Nat) :
    (parameterNames letter count).Nodup := by
  refine List.Nodup.map ?_ List.nodup_range
  intro i j same
  have digits : i.repr.toList = j.repr.toList :=
    congrArg String.toList ((String.append_right_inj letter).mp same)
  rw [Nat.toList_repr, Nat.toList_repr] at digits
  have read := congrArg (Nat.ofDigitChars 10 · 0) digits
  rwa [Nat.ofDigitChars_ten_toDigits, Nat.ofDigitChars_ten_toDigits] at read

theorem nodup_numbered (st : Statement) : st.numbered.Nodup := by
  cases st with
  | insert table columns => exact nodup_parameterNames "v" _
  | update table sets conditions =>
      refine List.nodup_append.mpr ⟨nodup_parameterNames _ _, nodup_parameterNames _ _, ?_⟩
      intro m first n second same
      obtain ⟨i, _, rfl⟩ := List.mem_map.mp first
      obtain ⟨j, _, rfl⟩ := List.mem_map.mp second
      have heads := congrArg (fun s : String => s.toList.head?) same
      simp at heads

end Store.Statement

namespace Resolve

open RowLoader.Identifier

/-- A question to the store with one parameter: how many rows of a table have it in a column, or what
these rows have under a target. -/
structure Query where
  target : Option String
  table : String
  column : String

namespace Query

def text (q : Query) : String :=
  "SELECT " ++ q.target.getD "COUNT(*)" ++ " FROM " ++ q.table ++ " WHERE " ++ q.column
    ++ " = :value"

def answer (q : Query) (s : Store) (value : Cell) : Except StoreFault (List Cell) := do
  let (t, hits) ← matching s q.table q.column value
  match q.target with
  | none => return [.int hits.length]
  | some target =>
    checkTarget target
    match t.operand? s.now target with
    | some operand => return hits.map operand.read
    | none => throw (.noSuchColumn (bare target))

def count (names : String × String × String) : Query :=
  ⟨none, names.1, names.2.2⟩

def find (names : String × String × String) : Query :=
  ⟨some names.2.1, names.1, names.2.2⟩

end Query

/-- What a look-up makes of the answers to its two questions; the second is put where the first
answered 1. -/
def lookupFrom (names : String × String × String) (kind : Kind) (f : Field) (raw : String)
    (row : Int) (counted found : Except StoreFault (List Cell)) : Except Failure Value := do
  match ← counted.mapError Failure.store with
  | [.int 1] =>
    match ← found.mapError Failure.store with
    | c :: _ => normalizeNumber kind c.value
    | [] => throw .noSuchCell
  | [.int 0] =>
    throw (problemAt f row (.lookupNotFound (.text raw) (.text names.1) (.text names.2.2)))
  | [.int n] =>
    throw (problemAt f row
      (.lookupAmbiguous (.text raw) (.text names.1) (.text names.2.2) n.toNat))
  | _ => throw .noSuchCell

/-- The cell enters a look-up only as the parameter of its two questions, besides its faults. -/
theorem lookupValue_eq (s : Store) (names : String × String × String) (kind : Kind) (f : Field)
    (raw : String) (row : Int) : lookupValue s names kind f raw row =
      lookupFrom names kind f raw row ((Query.count names).answer s (.text raw))
        ((Query.find names).answer s (.text raw)) := by
  obtain ⟨table, target, column⟩ := names
  unfold lookupValue lookupFrom Query.answer Query.count Query.find
  dsimp only
  cases matching s table column (.text raw) with
  | error e => rfl
  | ok answer =>
      obtain ⟨t, hits⟩ := answer
      match hits with
      | [] => rfl
      | [r] =>
          cases checkTarget target with
          | error e => rfl
          | ok _ =>
              simp only [Except.mapError, except_ok_bind]
              cases t.operand? s.now target <;> rfl
      | q :: r :: rest => rfl

theorem toOption_checked (name : Option String) (place : Option Place) :
    (checked name place).toOption = name.filter isPlain := by
  unfold checked
  cases name with
  | none => rfl
  | some s =>
      dsimp only [Option.filter]
      split <;> rfl

theorem toOption_lookupNames (f : Field) : (lookupNames f).toOption =
    (f.lookupTable.filter isPlain).bind fun table => ((some f.target).filter isPlain).bind
      fun target => (f.lookup.filter isPlain).map fun column => (table, target, column) := by
  simp only [← toOption_checked _ (some (placeOf f))]
  unfold lookupNames
  dsimp only
  cases checked f.lookupTable (some (placeOf f)) with
  | error e => rfl
  | ok table =>
      cases checked (some f.target) (some (placeOf f)) with
      | error e => rfl
      | ok target => cases checked f.lookup (some (placeOf f)) <;> rfl

theorem lookupNames_read (text : Option String) (position other : Int) :
    (lookupNames (Field.read text position)).toOption =
      (lookupNames (Field.read text other)).toOption := by
  rw [toOption_lookupNames, toOption_lookupNames]
  unfold Field.read
  dsimp only
  split <;> rfl

end Resolve

namespace Complete

def systemNames (table : String) (listed : Bool) : List String :=
  [keyColumn table, clientColumn, orgColumn] ++ (if listed then [activeColumn] else [])
    ++ ["Created", "CreatedBy", "Updated", "UpdatedBy", uniqueIdColumn]

theorem names_systemDefaults_eq (table : String) (template : Template) (context : Context)
    (key : Value) (listed : Bool) (id : String) :
    (systemDefaults table template context key listed id).names = systemNames table listed := by
  cases listed <;> rfl

end Complete

namespace Write

/-- What a header says of its fields besides look-ups: the targets, and which of them are keys. -/
abbrev Heading := List (String × Bool)

def headingOf (fields : List Field) : Heading :=
  fields.map fun f => (f.target, f.isKey)

def Heading.targets (heading : Heading) : List String :=
  targetNames (heading.map (·.1))

def Heading.keys (heading : Heading) : List String :=
  (heading.filter (·.2)).map (·.1)

/-- The statement of a row, but for its values: what a header, a table, and the columns that the
dictionary lists make of every row. -/
def shapeOf (table : String) (mode : Action) (heading : Heading) (listed : String → Bool) :
    Statement :=
  match mode with
  | .update =>
    .update table
      (Statement.nulls (namesStamped listed (heading.targets.filter (· ∉ heading.keys))))
      (Statement.nulls (if heading.keys.isEmpty then [clientColumn] else heading.keys))
  | _ =>
    .insert table
      (Statement.nulls ((systemNames table (listed activeColumn)).foldl addName heading.targets))

/-- The statement of a row with the values of its fields, and for an insertion with a key and a unique
id. -/
def statementOf (table : String) (template : Template) (context : Context) (mode : Action)
    (fields : List Field) (listed : String → Bool) (key : Value) (id : String)
    (values : List Value) : Statement :=
  let columns := enterValues [] (fields.zip values)
  match mode with
  | .update =>
    .update table (stamped context listed (withoutKeys (keys fields) columns))
      (conditionsFor template context fields columns)
  | _ =>
    .insert table
      (fill columns (systemDefaults table template context key (listed activeColumn) id))

theorem targets_keys (fields : List Field) :
    (keys fields).map Field.target = (headingOf fields).keys := by
  unfold Heading.keys headingOf
  rw [List.filter_map, List.map_map]
  rfl

theorem targets_headingOf (fields : List Field) :
    (headingOf fields).targets = targetNames (fields.map Field.target) := by
  unfold Heading.targets headingOf
  rw [List.map_map]
  rfl

theorem names_withoutKeys (keyFields : List Field) (columns : Columns) :
    (withoutKeys keyFields columns).names =
      columns.names.filter (· ∉ keyFields.map Field.target) := by
  unfold withoutKeys Columns.names
  rw [List.filter_map]
  congr 1
  apply List.filter_congr
  intro c _
  rw [Bool.eq_iff_iff]
  simp

theorem names_conditionsFor (template : Template) (context : Context) (fields : List Field)
    (columns : Columns) : (conditionsFor template context fields columns).map (·.1) =
      if (headingOf fields).keys.isEmpty then [clientColumn] else (headingOf fields).keys := by
  rw [← targets_keys]
  unfold conditionsFor
  cases keys fields with
  | nil => rfl
  | cons first rest =>
      unfold keyConditions
      rw [List.map_map]
      rfl

/-- The shape of a row's statement does not depend on its values, its key or its unique id, nor on the
template or the context. -/
theorem shape_statementOf (table : String) (template : Template) (context : Context)
    (mode : Action) {fields : List Field} (listed : String → Bool) (key : Value) (id : String)
    {values : List Value} (each : values.length = fields.length) :
    (statementOf table template context mode fields listed key id values).shape =
      shapeOf table mode (headingOf fields) listed := by
  have inserted : ∀ columns, columns = enterValues [] (fields.zip values) →
      (fill columns (systemDefaults table template context key (listed activeColumn) id)).names =
        (systemNames table (listed activeColumn)).foldl addName (headingOf fields).targets := by
    rintro columns rfl
    rw [names_fill_eq, names_systemDefaults_eq, names_enterValues each, targets_headingOf]
  cases mode with
  | update =>
      simp only [statementOf, shapeOf, Statement.shape]
      rw [names_stamped, names_withoutKeys, names_enterValues each, names_conditionsFor,
        targets_keys, targets_headingOf]
  | insert => simp only [statementOf, shapeOf, Statement.shape, inserted _ rfl]
  | skip => simp only [statementOf, shapeOf, Statement.shape, inserted _ rfl]
  | other name => simp only [statementOf, shapeOf, Statement.shape, inserted _ rfl]

end Write

namespace Run

open RowLoader.Write RowLoader.Source

def askedNames : Action → List String
  | .update => stampNames
  | _ => [activeColumn]

/-- Without a memory of columns the dictionary alone tells which of them it lists. -/
def isListed (s : Store) (table column : String) : Bool :=
  (find? s (columnKey table column).1 (columnKey table column).2).isSome

theorem lists_begun (w : Workspace) (table column : String) :
    lists (begun w) table column = isListed w.store table column := by
  unfold lists isListed
  rw [locate_fst]
  exact Option.isSome_map

/-- What a prepared row says: it has the statement of its values, and the columns that it asked for are
remembered. -/
structure Prepares (table : String) (template : Template) (context : Context) (mode : Action)
    (fields : List Field) (record : Record) (u : Workspace) (values : List Value)
    (statement : Statement) : Prop where
  resolved : ((resolveEach table record fields).runOn u).1 = .ok values
  made : ∃ key mid,
    statement = statementOf table template context mode fields (lists u table) key
      (u.uniqueId u.drawn) values ∧
    (mode ≠ .update → Draws u.store table (enterValues [] (fields.zip values)) key mid)

theorem prepareRecord_ok {table : String} {template : Template} {context : Context} {mode : Action}
    {fields : List Field} {record : Record} {u v : Workspace} {prepared : Option Statement}
    (usable : u.breakdown = none)
    (h : (prepareRecord table template context mode fields record).runOn u = (.ok prepared, v)) :
    v.breakdown = none ∧ (prepared = none → Asked u v) ∧
      ∀ statement, prepared = some statement →
        (∃ values, Prepares table template context mode fields record u values statement) ∧
        ∀ c ∈ askedNames mode, Remembers u v table c := by
  unfold prepareRecord at h
  obtain ⟨columns, mid, resolved, h⟩ := Work.bind_ok h
  obtain ⟨values, each, rfl, length, asked⟩ := resolveRow_ok usable resolved
  have steady : lists mid table = lists u table := by
    funext c
    unfold lists
    rw [lists_of_asked asked]
  have known : ∀ {c}, Remembers mid v table c → Remembers u v table c := by
    intro c later
    unfold Remembers at later ⊢
    rw [later, lists_of_asked asked]
  have inserted : mode ≠ .update →
      (some <$> prepareInsert table (some template) context
        (enterValues [] (fields.zip values))).runOn mid = (.ok prepared, v) →
      v.breakdown = none ∧ (prepared = none → Asked u v) ∧
        ∀ statement, prepared = some statement →
          (∃ values, Prepares table template context mode fields record u values statement) ∧
          ∀ c ∈ askedNames mode, Remembers u v table c := by
    intro other h
    rw [map_eq_pure_bind] at h
    obtain ⟨made, last, ran, h⟩ := Work.bind_ok h
    obtain ⟨rfl, rfl⟩ := Work.pure_ok h
    obtain ⟨key, after, drawn, rfl, remembered, kept⟩ := prepareInsert_ok ran
    refine ⟨kept.trans (asked.breakdown.trans usable), nofun, ?_⟩
    rintro statement ⟨⟩
    obtain ⟨_, opened, same⟩ := asked
    refine ⟨⟨values, congrArg Prod.fst each, key, after, ?_, ?_⟩, ?_⟩
    · unfold statementOf
      rw [steady, same]
      cases mode <;> first | rfl | exact absurd rfl other
    · intro _
      rw [same] at drawn
      exact drawn
    · intro c member
      have single : c = activeColumn := by
        cases mode <;> first | exact List.mem_singleton.mp member | exact absurd rfl other
      rw [single]
      exact known remembered
  cases mode with
  | update =>
      obtain ⟨later, made⟩ := prepareUpdate_ok (asked.breakdown.trans usable) h
      refine ⟨later.breakdown.trans (asked.breakdown.trans usable), fun _ => asked.trans later, ?_⟩
      intro statement same
      obtain ⟨rfl, remembered⟩ := made statement same
      refine ⟨⟨values, congrArg Prod.fst each, .null, u.store, ?_, fun other => absurd rfl other⟩,
        fun c member => known (remembered c member)⟩
      rw [steady]
      rfl
  | insert => exact inserted nofun h
  | skip => exact inserted nofun h
  | other name => exact inserted nofun h

/-- The dictionary lists the same columns for a later workspace of a run as for its first. -/
structure Listing (table : String) (mode : Action) (w u : Workspace) : Prop where
  usable : u.breakdown = none
  same : ∀ c ∈ askedNames mode, lists u table c = lists w table c

theorem Listing.of_remembers {table : String} {mode : Action} {w u v u' : Workspace}
    (listing : Listing table mode w u) (known : ∀ c ∈ askedNames mode, Remembers u v table c)
    (memo : u'.memo = v.memo) (usable : u'.breakdown = none) : Listing table mode w u' := by
  refine ⟨usable, ?_⟩
  intro c member
  rw [← listing.same c member]
  have remembered := known c member
  unfold Remembers at remembered
  unfold lists
  rw [locate_fst, memo, remembered]
  rfl

/-- A record that is written leaves open no question that it asked, even where it changed the
dictionary. -/
theorem Listing.writeRecord {table : String} {mode : Action} {w u u' : Workspace}
    (listing : Listing table mode w u) {template : Template} {context : Context}
    {fields : List Field} {record : Record} {outcome : Outcome}
    (h : (writeRecord table template context mode fields record).runOn u = (.ok outcome, u')) :
    Listing table mode w u' := by
  rw [writeRecord_eq] at h
  obtain ⟨prepared, v, ran, h⟩ := Work.bind_ok h
  obtain ⟨usable, skipped, made⟩ := prepareRecord_ok listing.usable ran
  cases prepared with
  | none =>
      obtain ⟨_, rfl⟩ := Work.pure_ok h
      refine ⟨usable, ?_⟩
      intro c member
      rw [← listing.same c member]
      unfold lists
      rw [lists_of_asked (skipped rfl)]
  | some statement =>
      obtain ⟨affected, last, executed, h⟩ := Work.bind_ok h
      obtain ⟨_, s, _, rfl⟩ := Work.execute_ok executed
      obtain ⟨_, rfl⟩ := Work.ofFault_ok h
      exact listing.of_remembers (made statement rfl).2 rfl usable

theorem Listing.writeRecords {table : String} {mode : Action} {w u u' : Workspace}
    (listing : Listing table mode w u) {template : Template} {context : Context}
    {fields : List Field} {records : List Record} {report report' : Report}
    (h : (writeRecords table template context mode fields report records).runOn u =
      (.ok report', u')) : Listing table mode w u' := by
  induction records generalizing u report with
  | nil =>
      obtain ⟨_, rfl⟩ := Work.pure_ok h
      exact listing
  | cons record rest ih =>
      obtain ⟨outcome, v, written, h⟩ := Work.bind_ok h
      exact ih (listing.writeRecord written) h

/-- Row `i` of an import reaches the execution of a statement: the rows before it are written, and its
statement is prepared in the workspace that they left. -/
structure Reaches (template : Template) (context : Context) (mode : Action) (lines : List String)
    (w : Workspace) (table : String) (p : Plan) (i : Nat) (record : Record) (u : Workspace)
    (statement : Statement) : Prop where
  named : ((tableOf template).runOn w).1 = .ok table
  planned : plan template.header lines = .ok p
  clean : p.problems = []
  found : p.records[i]? = some record
  before : ∃ report report', (writeRecords table template context mode p.fields report
    (p.records.take i)).runOn (begun w) = (.ok report', u)
  prepared : ((prepareRecord table template context mode p.fields record).runOn u).1 =
    .ok (some statement)

def ListAlike (s s' : Store) (table : String) (mode : Action) : Prop :=
  ∀ c ∈ askedNames mode, isListed s table c = isListed s' table c

theorem statementOf_congr {mode : Action} {listed listed' : String → Bool}
    (same : ∀ c ∈ askedNames mode, listed c = listed' c) (table : String) (template : Template)
    (context : Context) (fields : List Field) (key : Value) (id : String) (values : List Value) :
    statementOf table template context mode fields listed key id values =
      statementOf table template context mode fields listed' key id values := by
  have active : mode ≠ .update → listed activeColumn = listed' activeColumn := by
    intro other
    refine same activeColumn ?_
    cases mode <;> first | exact List.mem_singleton_self _ | exact absurd rfl other
  cases mode with
  | update =>
      have updated : listed "Updated" = listed' "Updated" := same _ (by decide)
      have user : listed "UpdatedBy" = listed' "UpdatedBy" := same _ (by decide)
      simp only [statementOf, stamped, updated, user]
  | insert => simp only [statementOf, active nofun]
  | skip => simp only [statementOf, active nofun]
  | other name => simp only [statementOf, active nofun]

theorem Reaches.prepares {template : Template} {context : Context} {mode : Action}
    {lines : List String} {w u : Workspace} {table : String} {p : Plan} {i : Nat} {record : Record}
    {statement : Statement}
    (reached : Reaches template context mode lines w table p i record u statement) :
    ∃ values key mid, ((resolveEach table record p.fields).runOn u).1 = .ok values ∧
      (mode ≠ .update → Draws u.store table (enterValues [] (p.fields.zip values)) key mid) ∧
      values.length = p.fields.length ∧
      statement = statementOf table template context mode p.fields (isListed w.store table) key
        (u.uniqueId u.drawn) values := by
  obtain ⟨report, report', before⟩ := reached.before
  have first : Listing table mode (begun w) (begun w) :=
    ⟨(tableOf_ok reached.named).1, fun _ _ => rfl⟩
  have listing := first.writeRecords before
  obtain ⟨_, _, made⟩ := prepareRecord_ok listing.usable (Prod.ext reached.prepared rfl)
  obtain ⟨⟨values, each, key, mid, made, drawn⟩, _⟩ := made statement rfl
  refine ⟨values, key, mid, each, drawn, length_of_resolveEach (Prod.ext each rfl), ?_⟩
  rw [made]
  refine statementOf_congr ?_ table template context p.fields key _ values
  intro c member
  rw [listing.same c member, lists_begun]

theorem Reaches.shape_eq {template : Template} {context : Context} {mode : Action}
    {lines : List String} {w u : Workspace} {table : String} {p : Plan} {i : Nat} {record : Record}
    {statement : Statement}
    (reached : Reaches template context mode lines w table p i record u statement) :
    statement.shape = shapeOf table mode (headingOf p.fields) (isListed w.store table) := by
  obtain ⟨values, key, mid, _, _, each, rfl⟩ := reached.prepares
  exact shape_statementOf table template context mode _ key _ each

/-- Two rows that reach execution have one shape, though they come from two runs, where the headers have
the same targets and keys and the dictionaries list the same. -/
theorem Reaches.shape_eq_shape {template template' : Template} {context context' : Context}
    {mode : Action} {lines lines' : List String} {w w' u u' : Workspace} {table : String}
    {p p' : Plan} {i i' : Nat} {record record' : Record} {statement statement' : Statement}
    (reached : Reaches template context mode lines w table p i record u statement)
    (other : Reaches template' context' mode lines' w' table p' i' record' u' statement')
    (heading : headingOf p.fields = headingOf p'.fields)
    (alike : ListAlike w.store w'.store table mode) : statement.shape = statement'.shape := by
  obtain ⟨values, key, mid, _, _, each, rfl⟩ := reached.prepares
  rw [statementOf_congr alike, shape_statementOf table template context mode _ key _ each, heading,
    other.shape_eq]

/-- No cell shapes a statement. What a row of an import executes is one statement, in which the values
of its cells and the system columns stand under their names. Its text and the names of its parameters
are those of the shape that the table, the targets and keys of the header, and the columns listed in
the dictionary make; so any two rows have the same text, also in two runs with other cells, another
template and another context. The parameters are numbered apart and carry the values in the order of
the text. A look-up puts two questions with the names of its token, and the cell as the parameter. -/
theorem cells_never_shape_statements (table : String) (mode : Action) :
    (∀ template context fields record,
      writeRecord table template context mode fields record =
        prepareRecord table template context mode fields record >>= finish fields record.row) ∧
    (∀ {template context lines w p i record u statement},
      Reaches template context mode lines w table p i record u statement →
      (∃ values key mid, ((resolveEach table record p.fields).runOn u).1 = .ok values ∧
        (mode ≠ .update → Draws u.store table (enterValues [] (p.fields.zip values)) key mid) ∧
        statement = statementOf table template context mode p.fields (isListed w.store table) key
          (u.uniqueId u.drawn) values) ∧
      statement.render =
        (shapeOf table mode (headingOf p.fields) (isListed w.store table)).render ∧
      statement.parameters =
        (shapeOf table mode (headingOf p.fields) (isListed w.store table)).numbered.zip
          (statement.named.map (·.2)) ∧
      statement.numbered.length = statement.named.length ∧ statement.numbered.Nodup) ∧
    (∀ {template template' context context' lines lines' w w' p p' i i' record record' u u'
        statement statement'},
      Reaches template context mode lines w table p i record u statement →
      Reaches template' context' mode lines' w' table p' i' record' u' statement' →
      headingOf p.fields = headingOf p'.fields → ListAlike w.store w'.store table mode →
      statement.render = statement'.render ∧ statement.numbered = statement'.numbered) ∧
    (∀ text position other, (lookupNames (Field.read text position)).toOption =
      (lookupNames (Field.read text other)).toOption) ∧
    (∀ s names kind f raw row, lookupValue s names kind f raw row =
      lookupFrom names kind f raw row ((Query.count names).answer s (.text raw))
        ((Query.find names).answer s (.text raw))) ∧
    ∀ of target column, lookupTexts of target column =
      ((Query.count (of, target, column)).text, (Query.find (of, target, column)).text) := by
  refine ⟨fun template context fields record => writeRecord_eq table template context mode fields
    record, ?_, ?_, lookupNames_read, lookupValue_eq, fun of target column => rfl⟩
  · intro template context lines w p i record u statement reached
    obtain ⟨values, key, mid, each, drawn, _, made⟩ := reached.prepares
    refine ⟨⟨values, key, mid, each, drawn, made⟩, ?_, ?_, statement.length_numbered,
      statement.nodup_numbered⟩
    · rw [← reached.shape_eq, Statement.render_shape]
    · rw [← reached.shape_eq, Statement.numbered_shape, Statement.parameters_eq]
  · intro template template' context context' lines lines' w w' p p' i i' record record' u u'
      statement statement' reached other heading alike
    have same := reached.shape_eq_shape other heading alike
    constructor
    · rw [← statement.render_shape, same, Statement.render_shape]
    · rw [← statement.numbered_shape, same, Statement.numbered_shape]

def amountPlan (data : List String) : Plan :=
  ⟨read [some "Value/K", some "Amount"], 2, data, .semicolon⟩

def amountWritten : Except Failure Report × Workspace :=
  (writeRecords "Part" partTemplate (.standard (Calendar.Date.midnight ⟨2027, 3, 4⟩)) .update
    (amountPlan ["A;1", "B;7"]).fields Report.empty
    ((amountPlan ["A;1", "B;7"]).records.take 1)).runOn (begun partWorkspace)

/-- One run takes an amount away; another one, later and with other cells, sets one. -/
theorem cells_never_shape_parts :
    Reaches partTemplate (.standard (Calendar.Date.midnight ⟨2026, 1, 2⟩)) .update
        ["Value/K;Amount", "A;(null)"] partWorkspace "Part" (amountPlan ["A;(null)"]) 0
        ⟨2, ["A", "(null)"]⟩ (begun partWorkspace)
        (.update "Part" [("Amount", .null)] [("Value", .text "A")]) ∧
      Reaches partTemplate (.standard (Calendar.Date.midnight ⟨2027, 3, 4⟩)) .update
        ["Value/K;Amount", "A;1", "B;7"] partWorkspace "Part" (amountPlan ["A;1", "B;7"]) 1
        ⟨3, ["B", "7"]⟩ amountWritten.2
        (.update "Part" [("Amount", .whole 7)] [("Value", .text "B")]) ∧
      (Statement.update "Part" [("Amount", .null)] [("Value", .text "A")]).render =
        (Statement.update "Part" [("Amount", .whole 7)] [("Value", .text "B")]).render := by
  have named : ((tableOf partTemplate).runOn partWorkspace).1 = .ok "Part" := by decide +kernel
  have answer : amountWritten.1 = .ok (Report.empty.add ⟨2, .update, 1, "Value=A"⟩) := by
    decide +kernel
  have written : amountWritten =
      (.ok (Report.empty.add ⟨2, .update, 1, "Value=A"⟩), amountWritten.2) := by
    rw [← answer, Prod.mk.eta]
  have first : Reaches partTemplate (.standard (Calendar.Date.midnight ⟨2026, 1, 2⟩)) .update
      ["Value/K;Amount", "A;(null)"] partWorkspace "Part" (amountPlan ["A;(null)"]) 0
      ⟨2, ["A", "(null)"]⟩ (begun partWorkspace)
      (.update "Part" [("Amount", .null)] [("Value", .text "A")]) := by
    refine ⟨named, ?_, ?_, ?_, ⟨Report.empty, Report.empty, rfl⟩, ?_⟩ <;> decide +kernel
  have second : Reaches partTemplate (.standard (Calendar.Date.midnight ⟨2027, 3, 4⟩)) .update
      ["Value/K;Amount", "A;1", "B;7"] partWorkspace "Part" (amountPlan ["A;1", "B;7"]) 1
      ⟨3, ["B", "7"]⟩ amountWritten.2
      (.update "Part" [("Amount", .whole 7)] [("Value", .text "B")]) := by
    refine ⟨named, ?_, ?_, ?_, ⟨Report.empty, Report.empty.add ⟨2, .update, 1, "Value=A"⟩, ?_⟩, ?_⟩
    · decide +kernel
    · decide +kernel
    · decide +kernel
    · exact written
    · decide +kernel
  have heading : headingOf (amountPlan ["A;(null)"]).fields =
      headingOf (amountPlan ["A;1", "B;7"]).fields := by
    unfold amountPlan
    rfl
  have alike : ListAlike partWorkspace.store partWorkspace.store "Part" .update := fun _ _ => rfl
  exact ⟨first, second,
    ((cells_never_shape_statements "Part" .update).2.2.1 first second heading alike).1⟩

end Run

end RowLoader
