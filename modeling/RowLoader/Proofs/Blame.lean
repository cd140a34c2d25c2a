import RowLoader.Proofs.Work
import RowLoader.Run

/-!
Whom a fault of a row blames. Once the lines are examined, resolving and writing a record ends in no
fault of a row but one that stands alone, names the row and a field of the header, and tells either of
a cell of that field or of a missing record.
-/

namespace RowLoader

open RowLoader.Header RowLoader.Dictionary

/-- A problem that is found when the lines are examined: a missing cell, or a repeated one. -/
def RowProblem.IsStructural : RowProblem → Prop
  | .malformed .. => True
  | .duplicateKey .. => True
  | _ => False

def RowProblem.quoted? : RowProblem → Option Value
  | .lookupNotFound value .. => some value
  | .lookupAmbiguous value .. => some value
  | .typeCast _ value _ => some value
  | _ => none

theorem RowProblem.not_structural_of_quoted {p : RowProblem} {v : Value} (h : p.quoted? = some v) :
    ¬ p.IsStructural := by
  intro structural
  cases p <;> first | exact structural | cases h

namespace Resolve

/-- A fault of a row that quotes a cell under the name of its field. -/
def Quotes (f : Field) (raw : String) (row : Int) (e : Fault) : Prop :=
  ∃ problem, e = .ofRow ⟨row, some f.position, some f.label, problem⟩ ∧
    problem.quoted? = some (.text raw)

theorem integer_ne_fault (s : String) (e : Fault) : integer s ≠ .error (.fault e) := by
  unfold integer
  split <;> simp

theorem decimal_ne_fault (s : String) (e : Fault) : decimal s ≠ .error (.fault e) := by
  unfold decimal
  split <;> simp

theorem literal_ne_fault (kind : Kind) (s : String) (e : Fault) :
    literal kind s ≠ .error (.fault e) := by
  unfold literal
  intro failed
  split at failed
  · exact integer_ne_fault s e (except_map_error failed)
  · exact decimal_ne_fault s e (except_map_error failed)

theorem normalizeNumber_ne_fault (kind : Kind) (v : Value) (e : Fault) :
    normalizeNumber kind v ≠ .error (.fault e) := by
  unfold normalizeNumber
  split
  · split
    · split
      · exact fun failed => integer_ne_fault _ e (except_map_error failed)
      · simp
    · split <;> simp
    · simp
  · simp

theorem exceeds_ne_fault (length : Nat) (limit : Store.Cell) (e : Fault) :
    exceeds length limit ≠ .error (.fault e) := by
  unfold exceeds
  split
  · simp
  · simp
  · simp
  · split <;> simp

theorem quotes_castProblem {table reason : String} {f : Field} {raw : String} {row : Int}
    {cause : Option String} {e : Fault} (h : castProblem table f raw row reason cause = .fault e) :
    Quotes f raw row e := by
  cases h
  exact ⟨_, rfl, rfl⟩

theorem cast_fault {info : Option ColumnInfo} {table : String} {f : Field} {raw : String}
    {row : Int} {e : Fault} (h : cast info table f raw row = .error (.fault e)) :
    Quotes f raw row e := by
  unfold cast at h
  dsimp only at h
  split at h
  · split at h
    · rename_i limited
      cases h
      exact absurd limited (exceeds_ne_fault _ _ e)
    · cases h
    · exact quotes_castProblem (Except.error.inj h)
  · split at h
    · exact absurd (except_map_error h) (integer_ne_fault raw e)
    · exact quotes_castProblem (Except.error.inj h)
  · split at h
    · exact absurd (except_map_error h) (decimal_ne_fault raw e)
    · exact quotes_castProblem (Except.error.inj h)
  · split at h
    · cases h
    · split at h
      · cases h
      · exact quotes_castProblem (Except.error.inj h)
  · split at h
    · cases h
    · exact quotes_castProblem (Except.error.inj h)

theorem lookupValue_fault {s : Store} {names : String × String × String} {kind : Kind} {f : Field}
    {raw : String} {row : Int} {e : Fault}
    (h : lookupValue s names kind f raw row = .error (.fault e)) : Quotes f raw row e := by
  obtain ⟨table, target, column⟩ := names
  rcases except_bind_error h with failed | ⟨⟨t, hits⟩, _, h⟩
  · obtain ⟨d, _, same⟩ := except_mapError_error failed
    cases same
  · dsimp only at h
    split at h
    · cases h
      exact ⟨_, rfl, rfl⟩
    · rcases except_bind_error h with failed | ⟨_, _, h⟩
      · obtain ⟨d, _, same⟩ := except_mapError_error failed
        cases same
      · split at h
        · exact absurd h (normalizeNumber_ne_fault _ _ e)
        · cases h
    · cases h
      exact ⟨_, rfl, rfl⟩

theorem checked_fault {name : Option String} {place : Option Place} {e : Fault}
    (h : Identifier.checked name place = .error e) : e = .setup (.badIdentifier name place) := by
  unfold Identifier.checked at h
  split at h
  · exact (Except.error.inj h).symm
  · split at h
    · cases h
    · exact (Except.error.inj h).symm

theorem lookupNames_fault {f : Field} {e : Fault} (h : lookupNames f = .error e) :
    ∃ name, e = .setup (.badIdentifier name (some (Identifier.placeOf f))) := by
  unfold lookupNames at h
  rcases except_bind_error h with failed | ⟨table, _, h⟩
  · exact ⟨_, checked_fault failed⟩
  · rcases except_bind_error h with failed | ⟨target, _, h⟩
    · exact ⟨_, checked_fault failed⟩
    · rcases except_bind_error h with failed | ⟨column, _, h⟩
      · exact ⟨_, checked_fault failed⟩
      · cases h

end Resolve

namespace Source

open RowLoader.Resolve

/-- A fault that a record can end in: one of a row stands alone, and tells that no record has the key
values, or quotes the cell of the field that it names. -/
def Record.EndsIn (record : Record) (fields : List Field) : Fault → Prop
  | .row r problems => problems = [r] ∧ r.row = record.row ∧
      ∃ f ∈ fields, r.column = some f.position ∧ r.token = some f.label ∧
        ((∃ predicate, r.problem = .recordNotFound predicate) ∨
          ∃ raw, record.cell f = .ok (some raw) ∧ r.problem.quoted? = some (.text raw))
  | _ => True

theorem Record.EndsIn.of_quotes {record : Record} {fields : List Field} {f : Field}
    (member : f ∈ fields) {raw : String} (cell : record.cell f = .ok (some raw)) {e : Fault}
    (quotes : Quotes f raw record.row e) : record.EndsIn fields e := by
  obtain ⟨problem, rfl, quoted⟩ := quotes
  exact ⟨rfl, rfl, f, member, rfl, rfl, .inr ⟨raw, cell, quoted⟩⟩

/-- What a record ends in is not for an examination to find. -/
theorem Record.EndsIn.not_structural {record : Record} {fields : List Field} {r : RowFault}
    {problems : List RowFault} (ends : record.EndsIn fields (.row r problems)) :
    ∀ q ∈ r :: problems, ¬ q.problem.IsStructural := by
  obtain ⟨rfl, _, f, _, _, _, told⟩ := ends
  have apart : ¬ r.problem.IsStructural := by
    rcases told with ⟨predicate, same⟩ | ⟨raw, _, quoted⟩
    · rw [same]
      exact not_false
    · exact RowProblem.not_structural_of_quoted quoted
  intro q member
  have same : q = r := by simpa using member
  rw [same]
  exact apart

end Source

namespace Resolve

open RowLoader.Source

/-- Resolving a cell ends in no fault but those that quote it, and those of the names of a look-up. -/
theorem faultsIn_resolve {Q : Fault → Prop} (table : String) {f : Field} {raw : Option String}
    {row : Int} (quotes : ∀ cell e, raw = some cell → Quotes f cell row e → Q e)
    (names : ∀ e, f.lookup.isSome = true → lookupNames f = .error e → Q e) :
    Work.FaultsIn Q (resolve table f raw row) := by
  unfold resolve
  cases raw with
  | none => exact Work.faultsIn_pure _
  | some raw =>
      split
      · exact Work.faultsIn_pure _
      · refine (Work.faultsIn_columnInfo table f.target).bind ?_
        intro _ info _ _
        unfold valueOf
        dsimp only [Option.getD_some]
        split
        · exact Work.faultsIn_ofExcept fun e failed =>
            absurd failed (literal_ne_fault (kindOf info) raw e)
        · split
          · rename_i searched
            refine (Work.faultsIn_ofFault fun e failed => names e searched failed).bind ?_
            intro _ names _ _
            refine Work.faultsIn_store.bind ?_
            intro _ s _ _
            exact Work.faultsIn_ofExcept fun e failed =>
              quotes raw e rfl (lookupValue_fault failed)
          · exact Work.faultsIn_ofExcept fun e failed => quotes raw e rfl (cast_fault failed)

theorem cellAt_ne_fault (cells : List String) (position : Int) (e : Fault) :
    cellAt cells position ≠ .error (.fault e) := by
  unfold cellAt
  dsimp only
  split
  · simp
  · split
    · simp
    · split <;> simp

theorem faultsIn_resolveRow {Q : Fault → Prop} (table : String) (record : Record)
    (columns : Columns) {fields : List Field}
    (each : ∀ f ∈ fields, ∀ raw, record.cell f = .ok raw →
      Work.FaultsIn Q (resolve table f raw record.row)) :
    Work.FaultsIn Q (resolveRow table record columns fields) := by
  induction fields generalizing columns with
  | nil => exact Work.faultsIn_pure _
  | cons f rest ih =>
      obtain ⟨first, later⟩ := List.forall_mem_cons.mp each
      unfold resolveRow
      refine (Work.faultsIn_ofExcept ?_).bind ?_
      · intro e failed
        exact absurd failed (cellAt_ne_fault _ _ e)
      · intro _ raw _ read
        obtain ⟨cell, _⟩ := Work.ofExcept_ok read
        exact (first raw cell).bind fun _ v _ _ => ih (columns.put f.target v) later

end Resolve

namespace Write

open RowLoader.Source RowLoader.Complete RowLoader.Store

theorem checkNames_fault {names : List String} {e : Fault}
    (h : Statement.checkNames names = .error e) : ∃ name, e = .setup (.badIdentifier name none) := by
  induction names with
  | nil => cases h
  | cons name rest ih =>
      rcases except_bind_error h with failed | ⟨_, _, h⟩
      · exact ⟨_, Resolve.checked_fault failed⟩
      · exact ih h

theorem makeInsert_fault {table : String} {columns : Columns} {e : Fault}
    (h : Statement.makeInsert table columns = .error e) :
    ∃ name, e = .setup (.badIdentifier name none) := by
  rcases except_bind_error h with failed | ⟨_, _, h⟩
  · exact checkNames_fault failed
  · rcases except_bind_error h with failed | ⟨_, _, h⟩
    · exact ⟨_, Resolve.checked_fault failed⟩
    · cases h

theorem makeUpdate_fault {table : String} {sets : Columns} {conditions : List (String × Value)}
    {e : Fault} (h : Statement.makeUpdate table sets conditions = .error e) :
    ∃ name, e = .setup (.badIdentifier name none) := by
  rcases except_bind_error h with failed | ⟨_, _, h⟩
  · exact checkNames_fault failed
  · rcases except_bind_error h with failed | ⟨_, _, h⟩
    · exact checkNames_fault failed
    · rcases except_bind_error h with failed | ⟨_, _, h⟩
      · exact ⟨_, Resolve.checked_fault failed⟩
      · cases h

variable {Q : Fault → Prop}

theorem faultsIn_putIfListed (table name : String) (value : Value) (columns : Columns) :
    Work.FaultsIn Q (putIfListed table name value columns) :=
  (Work.faultsIn_hasColumn table name).bind fun _ _ _ _ => Work.faultsIn_pure _

theorem faultsIn_withChange (table : String) (context : Context) (sets : Columns) :
    Work.FaultsIn Q (withChange table context sets) :=
  (faultsIn_putIfListed table _ _ sets).bind fun _ _ _ _ => faultsIn_putIfListed table _ _ _

theorem faultsIn_needed (template : Option Template) : Work.FaultsIn Q (needed template) := by
  cases template with
  | none => exact Work.faultsIn_ofExcept fun e failed => by cases failed
  | some t => exact Work.faultsIn_pure t

theorem faultsIn_drawId : Work.FaultsIn Q Work.drawId := by
  intro w e w' failed
  cases failed

theorem faultsIn_complete {table : String} (missing : Q (.noSequence (.text table)))
    (template : Option Template) (context : Context) (columns : Columns) :
    Work.FaultsIn Q (complete table template context columns) := by
  have keyed : Work.FaultsIn Q (withKey table columns) := by
    unfold withKey
    split
    · refine (Work.faultsIn_nextKey table).bind ?_
      intro _ key _ _
      cases key with
      | none =>
          refine Work.faultsIn_ofFault ?_
          intro e failed
          cases failed
          exact missing
      | some key => exact Work.faultsIn_pure _
    · exact Work.faultsIn_pure _
  refine keyed.bind ?_
  intro _ columns _ _
  refine (faultsIn_needed template).bind ?_
  intro _ t _ _
  refine (faultsIn_putIfListed table _ _ _).bind ?_
  intro _ active _ _
  exact faultsIn_drawId.bind fun _ _ _ _ => Work.faultsIn_pure _

theorem faultsIn_insert {table : String} {template : Option Template} {context : Context}
    {columns : Columns} (row : Int) (missing : Q (.noSequence (.text table)))
    (refused : ∀ w completed w', (complete table template context columns).runOn w =
      (.ok completed, w') → ∀ e, Statement.makeInsert table completed = .error e → Q e) :
    Work.FaultsIn Q (insert table template context columns row) := by
  refine (faultsIn_complete missing template context columns).bind ?_
  intro w completed w' filled
  refine (Work.faultsIn_ofFault (refused w completed w' filled)).bind ?_
  intro _ statement _ _
  exact (Work.faultsIn_execute statement).bind fun _ _ _ _ => Work.faultsIn_pure _

theorem faultsIn_change {table : String} {context : Context} {sets : Columns}
    {conditions : List (String × Value)}
    (refused : ∀ w changed w', (withChange table context sets).runOn w = (.ok changed, w') →
      ∀ e, Statement.makeUpdate table changed conditions = .error e → Q e) :
    Work.FaultsIn Q (change table context sets conditions) := by
  refine (faultsIn_withChange table context sets).bind ?_
  intro w changed w' stamped
  exact (Work.faultsIn_ofFault (refused w changed w' stamped)).bind
    fun _ statement _ _ => Work.faultsIn_execute statement

theorem faultsIn_change_of_names (names : ∀ name, Q (.setup (.badIdentifier name none)))
    (table : String) (context : Context) (sets : Columns) (conditions : List (String × Value)) :
    Work.FaultsIn Q (change table context sets conditions) := by
  refine faultsIn_change fun _ _ _ _ e failed => ?_
  obtain ⟨name, rfl⟩ := makeUpdate_fault failed
  exact names name

theorem mem_of_keys {fields : List Field} {first : Field} {rest : List Field}
    (named : keys fields = first :: rest) : ∀ f ∈ first :: rest, f ∈ fields := by
  intro f member
  rw [← named] at member
  exact (List.mem_filter.mp member).1

/-- Updating a row ends in no fault but those of a change of its values, and those of records that are
missing. -/
theorem faultsIn_update {table : String} {template : Option Template} {context : Context}
    {fields : List Field} {columns : Columns} {row : Int}
    (missing : ∀ first ∈ fields, ∀ conditions, Q (notFound row first conditions))
    (changes : ∀ sets conditions, (∀ n ∈ sets.names, n ∈ columns.names) →
      (∀ c ∈ conditions, c.1 = clientColumn ∨ ∃ f ∈ fields, f.target = c.1) →
      Work.FaultsIn Q (change table context sets conditions)) :
    Work.FaultsIn Q (update table template context fields columns row) := by
  have unfound : ∀ {first : Field}, first ∈ fields → ∀ conditions,
      Work.FaultsIn Q (Work.ofFault (.error (notFound row first conditions)) : Work Outcome) := by
    intro first member conditions
    refine Work.faultsIn_ofFault fun e failed => ?_
    cases failed
    exact missing first member conditions
  unfold update
  split
  · refine (faultsIn_needed template).bind ?_
    intro _ t _ _
    dsimp only
    split
    · exact Work.faultsIn_pure _
    · refine (changes columns _ (fun _ member => member) ?_).bind
        fun _ _ _ _ => Work.faultsIn_pure _
      exact List.forall_mem_singleton.mpr (.inl rfl)
  · rename_i first rest named
    have within := mem_of_keys named
    have member := within first List.mem_cons_self
    unfold updateKeyed
    dsimp only
    split
    · exact unfound member _
    · split
      · exact Work.faultsIn_pure _
      · refine (changes _ _ ?_ ?_).bind ?_
        · intro n inside
          obtain ⟨c, kept, rfl⟩ := List.mem_map.mp inside
          exact List.mem_map_of_mem (List.mem_filter.mp kept).1
        · intro c inside
          obtain ⟨f, key, rfl⟩ := List.mem_map.mp inside
          exact .inr ⟨f, within f key, rfl⟩
        · intro _ affected _ _
          split
          · exact unfound member _
          · exact Work.faultsIn_pure _

end Write

namespace Run

open RowLoader.Source

theorem faultsIn_writeRecord (table : String) (template : Template) (context : Context)
    (mode : Action) (fields : List Field) (record : Record) :
    Work.FaultsIn (record.EndsIn fields)
      (writeRecord table template context mode fields record) := by
  have resolved : ∀ f ∈ fields, ∀ raw, record.cell f = .ok raw →
      Work.FaultsIn (record.EndsIn fields) (Resolve.resolve table f raw record.row) := by
    intro f member raw read
    refine Resolve.faultsIn_resolve table ?_ ?_
    · rintro cell e rfl quotes
      exact .of_quotes member read quotes
    · intro e _ failed
      obtain ⟨name, rfl⟩ := Resolve.lookupNames_fault failed
      exact trivial
  refine (Resolve.faultsIn_resolveRow table record [] resolved).bind ?_
  intro _ columns _ _
  split
  · refine Write.faultsIn_update ?_ fun sets conditions _ _ =>
      Write.faultsIn_change_of_names (fun _ => trivial) table context sets conditions
    exact fun first member conditions => ⟨rfl, rfl, first, member, rfl, rfl, .inl ⟨_, rfl⟩⟩
  · refine Write.faultsIn_insert record.row trivial fun _ _ _ _ e failed => ?_
    obtain ⟨name, rfl⟩ := Write.makeInsert_fault failed
    exact trivial

theorem faultsIn_writeRecords (table : String) (template : Template) (context : Context)
    (mode : Action) (fields : List Field) (report : Report) (records : List Record) :
    Work.FaultsIn (fun e => ∃ record ∈ records, record.EndsIn fields e)
      (writeRecords table template context mode fields report records) := by
  induction records generalizing report with
  | nil => exact Work.faultsIn_pure _
  | cons record rest ih =>
      unfold writeRecords
      refine Work.FaultsIn.bind ?_ ?_
      · intro w e w' failed
        exact ⟨record, List.mem_cons_self,
          faultsIn_writeRecord table template context mode fields record w e w' failed⟩
      · intro _ outcome _ _ w e w' failed
        obtain ⟨later, member, ends⟩ := ih (report.add outcome) w e w' failed
        exact ⟨later, List.mem_cons_of_mem _ member, ends⟩

end Run

end RowLoader
