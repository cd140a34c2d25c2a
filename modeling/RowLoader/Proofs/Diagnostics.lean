import RowLoader.Proofs.Runs

/-!
Where problems point to. Rows count the lines of a file and columns the tokens of its header, both from 1
and whether the header is a line of the file or stored; a problem quotes what stands at its place.
-/

namespace RowLoader

open RowLoader.Text RowLoader.Header RowLoader.Source RowLoader.Dictionary

def entryAt? {α : Type} (entries : List α) (n : Int) : Option α :=
  if 1 ≤ n then entries[(n - 1).toNat]? else none

theorem entryAt?_add_one {α : Type} (entries : List α) (i : Nat) :
    entryAt? entries ((i : Int) + 1) = entries[i]? := by
  unfold entryAt?
  rw [if_pos (by omega)]
  congr 1
  omega

theorem entryAt?_within {α : Type} {entries : List α} {n : Int} {a : α}
    (h : entryAt? entries n = some a) : 1 ≤ n ∧ n ≤ entries.length := by
  unfold entryAt? at h
  split at h
  · obtain ⟨bound, _⟩ := List.getElem?_eq_some_iff.mp h
    omega
  · cases h

namespace Source

def fieldAt? (separator : Separator) (lines : List String) (row column : Int) : Option String :=
  (entryAt? lines row).bind fun line => entryAt? (cellsOf separator line) column

/-- What a problem says holds of its place: of the line, or of the field there. -/
def TellsOf (tokens : List String) (firstRow : Int) (separator : Separator) (lines : List String)
    (q : RowFault) : Prop :=
  match q.problem with
  | .malformed expected found line => q.column = none ∧ q.token = none ∧
      ∃ l, entryAt? lines q.row = some l ∧ line = .text l ∧ expected = tokens.length ∧
        found = (split separator l.toList).length ∧ found < expected
  | .duplicateKey value first => firstRow ≤ first ∧ first < q.row ∧
      ∃ c cell, q.column = some c ∧ value = .text cell ∧
        fieldAt? separator lines q.row c = some cell ∧ fieldAt? separator lines first c = some cell
  | .lookupNotFound value _ _ | .lookupAmbiguous value _ _ _ | .typeCast _ value _ =>
      ∃ c cell, q.column = some c ∧ value = .text cell ∧
        fieldAt? separator lines q.row c = some cell
  | .recordNotFound _ => q.column.isSome
  | .stated .. => False

/-- A problem points into a file with a header: to a data line, and to the token of the header that it
names, if it names a column. -/
structure PointsInto (tokens : List String) (firstRow : Int) (separator : Separator)
    (lines : List String) (q : RowFault) : Prop where
  row : firstRow ≤ q.row ∧ q.row ≤ lines.length
  token : ∀ c, q.column = some c →
    ∃ token, entryAt? tokens c = some token ∧ q.token = some (trim token)
  tells : TellsOf tokens firstRow separator lines q

theorem read_of_mem_read {tokens : List String} {f : Field} (member : f ∈ read (tokens.map some)) :
    ∃ token, entryAt? tokens f.position = some token ∧ f = Field.read (some token) f.position := by
  obtain ⟨i, found⟩ := List.getElem?_of_mem member
  rw [Header.read, getElem?_readFrom, List.getElem?_map] at found
  obtain ⟨_, here, rfl⟩ := Option.map_eq_some_iff.mp found
  obtain ⟨token, there, rfl⟩ := Option.map_eq_some_iff.mp here
  refine ⟨token, ?_, by rw [position_read]⟩
  rw [position_read, Int.add_comm, entryAt?_add_one]
  exact there

theorem token_of_mem_read {tokens : List String} {f : Field} (member : f ∈ read (tokens.map some)) :
    ∃ token, entryAt? tokens f.position = some token ∧ f.label = trim token := by
  obtain ⟨token, there, same⟩ := read_of_mem_read member
  exact ⟨token, there, by rw [same, label_read]⟩

theorem fieldAt?_of_complete {fields : List Field} (numbered : Numbered fields) {f : Field}
    (member : f ∈ fields) {separator : Separator} {lines : List String} {row : Int} {line : String}
    (here : entryAt? lines row = some line) (complete : isComplete fields separator line = true) :
    fieldAt? separator lines row f.position = some (lineCell separator line f) := by
  have within := numbered.within member
  have long : fields.length ≤ (cellsOf separator line).length := by
    simpa [isComplete] using complete
  have bound : (f.position - 1).toNat < (cellsOf separator line).length := by omega
  unfold fieldAt?
  rw [here]
  unfold entryAt? lineCell keyCell
  rw [Option.bind_some, if_pos within.1, List.getD_eq_getElem?_getD, List.getElem?_eq_getElem bound]
  rfl

theorem mem_problemsAfter {fields : List Field} {separator : Separator} {firstRow : Int}
    {earlier lines : List String} {q : RowFault}
    (member : q ∈ problemsAfter fields separator firstRow earlier lines) :
    ∃ (i : Nat) (line : String), lines[i]? = some line ∧
      q ∈ lineProblems fields separator firstRow (earlier ++ lines.take i) line := by
  induction lines generalizing earlier with
  | nil => cases member
  | cons line rest ih =>
      rcases List.mem_append.mp member with here | later
      · exact ⟨0, line, rfl, by simpa using here⟩
      · obtain ⟨i, found, there, inside⟩ := ih later
        exact ⟨i + 1, found, there, by simpa using inside⟩

/-- A line is told to be incomplete, or to repeat the cell of an earlier one for a key field. -/
theorem mem_lineProblems {fields : List Field} {separator : Separator} {firstRow : Int}
    {earlier : List String} {line : String} {q : RowFault}
    (member : q ∈ lineProblems fields separator firstRow earlier line) :
    isComplete fields separator line = false ∧ q = ⟨firstRow + earlier.length, none, none,
        .malformed fields.length (cellsOf separator line).length (.text line)⟩ ∨
      isComplete fields separator line = true ∧ ∃ f ∈ fields, ∃ (j : Nat) (l : String),
        earlier[j]? = some l ∧ isComplete fields separator l = true ∧
        lineCell separator l f = lineCell separator line f ∧
        q = ⟨firstRow + earlier.length, some f.position, some f.label,
          .duplicateKey (.text (lineCell separator line f)) (firstRow + j)⟩ := by
  unfold lineProblems at member
  dsimp only at member
  cases complete : isComplete fields separator line with
  | false =>
      rw [complete, if_neg Bool.false_ne_true] at member
      exact .inl ⟨rfl, List.mem_singleton.mp member⟩
  | true =>
      rw [complete, if_pos rfl] at member
      obtain ⟨f, key, repeated⟩ := List.mem_filterMap.mp member
      obtain ⟨j, first, rfl⟩ := Option.map_eq_some_iff.mp repeated
      obtain ⟨bound, has, _⟩ := List.findIdx?_eq_some_iff_getElem.mp first
      obtain ⟨whole, same⟩ := (Bool.and_eq_true _ _).mp has
      exact .inr ⟨rfl, f, (List.mem_filter.mp key).1, j, _, List.getElem?_eq_getElem bound, whole,
        by simpa using same, rfl⟩

end Source

namespace Run

/-- The tokens of a header and the number of the first data line, by the stored header and the first line
of a file. -/
def headerOf (stored : Option String) (first : String) : List String × Int :=
  match Template.tokens stored with
  | some tokens => (tokens, 1)
  | none => (cellsOf (separatorOf first) first, 2)

def headerFields (stored : Option String) (first : String) : List Field :=
  read ((headerOf stored first).1.map some)

theorem one_le_firstRow (stored : Option String) (first : String) :
    1 ≤ (headerOf stored first).2 := by
  unfold headerOf
  split
  · exact Int.le_refl 1
  · exact Int.le.intro 1 rfl

theorem plan_cons (stored : Option String) (first : String) (rest : List String) :
    plan stored (first :: rest) = .ok ⟨headerFields stored first, (headerOf stored first).2,
      (first :: rest).drop ((headerOf stored first).2 - 1).toNat, separatorOf first⟩ := by
  unfold plan headerFields headerOf
  cases Template.tokens stored <;> rfl

theorem entryAt?_of_data {p : Plan} {lines : List String} (first : 1 ≤ p.firstRow)
    (data : p.data = lines.drop (p.firstRow - 1).toNat) {i : Nat} {line : String}
    (found : p.data[i]? = some line) : entryAt? lines (p.firstRow + i) = some line := by
  rw [data, List.getElem?_drop] at found
  unfold entryAt?
  rw [if_pos (by omega), ← found]
  congr 1
  omega

theorem writeEach_error {table : String} {template : Template} {context : Context} {mode : Action}
    {fields : List Field} {records : List Record} {w w' : Workspace} {e : Failure}
    (h : (writeEach table template context mode fields records).runOn w = (.error e, w')) :
    ∃ record ∈ records, ∃ v v',
      (writeRecord table template context mode fields record).runOn v = (.error e, v') := by
  induction records generalizing w with
  | nil => cases h
  | cons record rest ih =>
      rcases Work.bind_error h with failed | ⟨outcome, mid, _, h⟩
      · exact ⟨record, List.mem_cons_self, w, w', failed⟩
      · rcases Work.bind_error h with failed | ⟨others, _, _, h⟩
        · obtain ⟨later, member, v, v', failed⟩ := ih failed
          exact ⟨later, List.mem_cons_of_mem _ member, v, v', failed⟩
        · cases h

/-- What a run that ends in a fault ends in: its mode is refused, its template has no table, there is no
line, the examination of the lines finds problems, or a record that is written fails. -/
theorem runLines_fault {template : Template} {context : Context} {mode : Action}
    {lines : List String} {w : Workspace} {f : Fault}
    (h : ((runLines (some template) context mode lines).runOn w).1 = .error (.fault f)) :
    checkMode mode = .error f ∨ f = .setup (.noTable template.tab) ∨
      plan template.header lines = .error f ∨
      ∃ table p, ((tableOf template).runOn w).1 = .ok table ∧ plan template.header lines = .ok p ∧
        ((∃ first, first ∈ p.problems ∧ f = .row first p.problems) ∨
          p.problems = [] ∧ ∃ record ∈ p.records, ∃ v v',
            (writeRecord table template context mode p.fields record).runOn v =
              (.error (.fault f), v')) := by
  by_cases missing : f = .setup (.noTable template.tab)
  · exact .inr (.inl missing)
  obtain ⟨w', ran⟩ : ∃ w', (runLines (some template) context mode lines).runOn w =
      (.error (.fault f), w') := ⟨_, Prod.ext h rfl⟩
  rcases Work.bind_error ran with failed | ⟨_, mid, checked, imported⟩
  · cases refused : checkMode mode with
    | ok _ =>
        rw [refused] at failed
        cases failed
    | error e =>
        rw [refused] at failed
        cases failed
        exact .inl rfl
  · obtain ⟨accepted, rfl⟩ := Work.ofFault_ok checked
    obtain ⟨table, named⟩ := tableOf_of_fault (congrArg Prod.fst imported) missing
    refine .inr (.inr ?_)
    cases lines with
    | nil =>
        have answer := (runOn_importLines named context mode []).1
        rw [imported] at answer
        cases answer
        exact .inl rfl
    | cons line rest =>
        refine .inr ⟨table, _, named, plan_cons _ _ _, ?_⟩
        rw [runOn_runLines named (plan_cons _ _ _) accepted] at h
        unfold Plan.carryOut at h
        split at h
        · rename_i clean
          refine .inr ⟨clean, ?_⟩
          rw [map_eq_pure_bind] at h
          rcases Work.bind_error (Prod.ext h rfl) with failed | ⟨outcomes, _, _, h⟩
          · exact writeEach_error failed
          · cases h
        · rename_i first others found
          cases h
          exact .inl ⟨first, by rw [found]; exact List.mem_cons_self, by rw [found]⟩

/-- A run that ends in a fault of a row ends in what the examination of its lines finds, or in a fault of
a record that it writes. -/
theorem runLines_rowFault {template : Template} {context : Context} {mode : Action}
    {lines : List String} {w : Workspace} {first : RowFault} {problems : List RowFault}
    (h : ((runLines (some template) context mode lines).runOn w).1 =
      .error (.fault (.row first problems))) :
    ∃ table p, ((tableOf template).runOn w).1 = .ok table ∧ plan template.header lines = .ok p ∧
      (p.problems = problems ∧ first ∈ problems ∨
        p.problems = [] ∧ ∃ record ∈ p.records, ∃ v v',
          (writeRecord table template context mode p.fields record).runOn v =
            (.error (.fault (.row first problems)), v')) := by
  rcases runLines_fault h with refused | missing | unplanned | ⟨table, p, named, planned, ended⟩
  · cases mode <;> cases refused
  · cases missing
  · cases lines with
    | nil => cases unplanned
    | cons line rest =>
        rw [plan_cons] at unplanned
        cases unplanned
  · refine ⟨table, p, named, planned, ended.imp_left ?_⟩
    rintro ⟨q, member, same⟩
    cases same
    exact ⟨rfl, member⟩

theorem Plan.structural_of_problem {p : Plan} {q : RowFault} (member : q ∈ p.problems) :
    q.problem.IsStructural := by
  obtain ⟨i, line, _, inside⟩ := mem_problemsAfter member
  rcases mem_lineProblems inside with ⟨_, rfl⟩ | ⟨_, f, _, j, l, _, _, _, rfl⟩ <;> exact trivial

/-- A plan of a file: its fields are those of some tokens, and its data the lines from its first row on. -/
structure Plan.Of (p : Plan) (tokens : List String) (lines : List String) : Prop where
  fields : p.fields = read (tokens.map some)
  first : 1 ≤ p.firstRow
  data : p.data = lines.drop (p.firstRow - 1).toNat

section

variable {p : Plan} {tokens lines : List String} (of : p.Of tokens lines)
include of

theorem Plan.Of.numbered : Numbered p.fields := by
  rw [of.fields]
  exact numbered_read _

theorem Plan.Of.token {f : Field} (member : f ∈ p.fields) {c : Int} (named : some f.position = some c) :
    ∃ token, entryAt? tokens c = some token ∧ some f.label = some (trim token) := by
  cases named
  rw [of.fields] at member
  obtain ⟨token, there, label⟩ := token_of_mem_read member
  exact ⟨token, there, congrArg some label⟩

theorem Plan.Of.line_at {i : Nat} {line : String} (found : p.data[i]? = some line) :
    entryAt? lines (p.firstRow + i) = some line := entryAt?_of_data of.first of.data found

theorem Plan.Of.row {i : Nat} {line : String} (found : p.data[i]? = some line) :
    p.firstRow ≤ p.firstRow + i ∧ p.firstRow + i ≤ lines.length := by
  have within := entryAt?_within (of.line_at found)
  omega

theorem Plan.Of.pointsInto_of_problem {q : RowFault} (member : q ∈ p.problems) :
    PointsInto tokens p.firstRow p.separator lines q := by
  obtain ⟨i, line, found, inside⟩ := mem_problemsAfter member
  have here := of.line_at found
  have row := of.row found
  have bound := (List.getElem?_eq_some_iff.mp found).1
  have counted : ([] ++ p.data.take i).length = i := by
    rw [List.nil_append, List.length_take]
    omega
  rcases mem_lineProblems inside with ⟨short, rfl⟩ | ⟨complete, f, among, j, l, earlier, whole, same, rfl⟩
  · rw [counted]
    refine ⟨row, nofun, rfl, rfl, line, here, rfl, ?_, ?_, ?_⟩
    · rw [of.fields, length_read]
    · simp [cellsOf]
    · simpa [isComplete] using short
  · rw [counted]
    rw [List.nil_append, List.getElem?_take] at earlier
    split at earlier
    · rename_i before
      have there := of.line_at earlier
      refine ⟨row, fun c => of.token among, ?_, ?_, f.position, _, rfl, rfl, ?_, ?_⟩
      · exact Int.le.intro j rfl
      · exact Int.add_lt_add_left (Int.ofNat_lt.mpr before) _
      · exact fieldAt?_of_complete of.numbered among here complete
      · rw [← same]
        exact fieldAt?_of_complete of.numbered among there whole
    · cases earlier

/-- The record of a row is that of the line of the row, which is complete. -/
theorem Plan.Of.line_of_record (clean : p.problems = []) {record : Record}
    (member : record ∈ p.records) : ∃ line, entryAt? lines record.row = some line ∧
      record = recordOf p.fields p.separator record.row line ∧
      isComplete p.fields p.separator line = true ∧
      p.firstRow ≤ record.row ∧ record.row ≤ lines.length := by
  rw [p.records_eq clean] at member
  obtain ⟨i, bound, rfl⟩ := List.mem_mapIdx.mp member
  have found := List.getElem?_eq_getElem bound
  exact ⟨_, of.line_at found, rfl,
    isComplete_of_problemsOf_nil clean _ (List.getElem_mem bound), of.row found⟩

theorem Plan.Of.pointsInto_of_record (clean : p.problems = []) {record : Record}
    (member : record ∈ p.records) {q : RowFault} {problems : List RowFault}
    (ends : record.EndsIn p.fields (.row q problems)) :
    PointsInto tokens p.firstRow p.separator lines q := by
  obtain ⟨line, here, shape, complete, row⟩ := of.line_of_record clean member
  obtain ⟨_, sameRow, f, among, column, token, told⟩ := ends
  rw [← sameRow] at here shape row
  refine ⟨row, ?_, ?_⟩
  · rw [column, token]
    exact fun c => of.token among
  · unfold TellsOf
    rcases told with ⟨predicate, same⟩ | ⟨raw, cell, quoted⟩
    · rw [same, column]
      rfl
    · rw [shape, cell_recordOf of.numbered among complete] at cell
      cases cell
      have field := fieldAt?_of_complete of.numbered among here complete
      have told : ∃ c cell, q.column = some c ∧
          Value.text (lineCell p.separator line f) = .text cell ∧
          fieldAt? p.separator lines q.row c = some cell := ⟨_, _, column, rfl, field⟩
      cases problem : q.problem <;> rw [problem] at quoted <;> cases quoted <;> exact told

end

/-- Every problem that a run ends in points to a data line of the file, and to the token that its column
has in the header: an incomplete line is quoted and its fields are counted, the value of any problem
with a cell is the trimmed field at its place, and a repeated key stands in an earlier line as well. A
fault that the examination of the lines does not find comes from writing the record of the line of its
row. -/
theorem runLines_points_into_file {template : Template} {context : Context} {mode : Action}
    {lines : List String} {w : Workspace} {first : RowFault} {problems : List RowFault}
    (failed : ((runLines (some template) context mode lines).runOn w).1 =
      .error (.fault (.row first problems))) :
    first ∈ problems ∧ ∃ head rest, lines = head :: rest ∧
      (∀ q ∈ problems, PointsInto (headerOf template.header head).1
        (headerOf template.header head).2 (separatorOf head) lines q) ∧
      (first.problem.IsStructural ∨ problems = [first] ∧ ∃ table line v v',
        ((tableOf template).runOn w).1 = .ok table ∧ entryAt? lines first.row = some line ∧
        (writeRecord table template context mode (headerFields template.header head)
          (recordOf (headerFields template.header head) (separatorOf head) first.row line)).runOn v =
            (.error (.fault (.row first problems)), v')) := by
  obtain ⟨table, p, named, planned, ended⟩ := runLines_rowFault failed
  cases lines with
  | nil => cases planned
  | cons head rest =>
      cases (plan_cons _ _ _).symm.trans planned
      have of : Plan.Of ⟨headerFields template.header head, (headerOf template.header head).2,
          (head :: rest).drop ((headerOf template.header head).2 - 1).toNat, separatorOf head⟩
          (headerOf template.header head).1 (head :: rest) :=
        ⟨rfl, one_le_firstRow template.header head, rfl⟩
      rcases ended with ⟨rfl, member⟩ | ⟨clean, record, member, v, v', written⟩
      · refine ⟨member, head, rest, rfl, fun q inside => of.pointsInto_of_problem inside, .inl ?_⟩
        exact Plan.structural_of_problem member
      · have ends := faultsIn_writeRecord table template context mode _ record v _ v' written
        have points := of.pointsInto_of_record clean member ends
        obtain ⟨alone, row, _⟩ := ends
        obtain ⟨line, here, shape, _⟩ := of.line_of_record clean member
        rw [← row] at here shape
        rw [shape] at written
        subst alone
        refine ⟨List.mem_singleton_self _, head, rest, rfl, ?_,
          .inr ⟨rfl, table, line, v, v', named, here, written⟩⟩
        intro q inside
        rw [List.mem_singleton.mp inside]
        exact points

/-- The repeated part is told of with the line that it repeats, though the line before it is told of
first. -/
theorem defectiveParts_point_into_file :
    ((runLines (some partTemplate) (.standard (Calendar.Date.midnight ⟨2026, 1, 2⟩)) .insert
        defectiveParts).runOn partWorkspace).1 =
      .error (.fault (.row ⟨4, none, none, .malformed 2 1 (.text "C")⟩
        [⟨4, none, none, .malformed 2 1 (.text "C")⟩,
          ⟨5, some 1, some "Value/K", .duplicateKey (.text "C") 2⟩])) ∧
      PointsInto ["Value/K", "Amount"] 2 .semicolon defectiveParts
        ⟨5, some 1, some "Value/K", .duplicateKey (.text "C") 2⟩ := by
  have failed : ((runLines (some partTemplate) (.standard (Calendar.Date.midnight ⟨2026, 1, 2⟩))
      .insert defectiveParts).runOn partWorkspace).1 =
      .error (.fault (.row ⟨4, none, none, .malformed 2 1 (.text "C")⟩
        [⟨4, none, none, .malformed 2 1 (.text "C")⟩,
          ⟨5, some 1, some "Value/K", .duplicateKey (.text "C") 2⟩])) := by decide +kernel
  obtain ⟨_, head, rest, lines, points, _⟩ := runLines_points_into_file failed
  obtain ⟨rfl, _⟩ := List.cons_eq_cons.mp lines
  have header : headerOf partTemplate.header "Value/K;Amount" = (["Value/K", "Amount"], 2) := by
    decide +kernel
  rw [header] at points
  exact ⟨failed, points _ (List.mem_cons_of_mem _ List.mem_cons_self)⟩

end Run

end RowLoader
