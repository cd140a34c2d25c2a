import RowLoader.Proofs.Blame
import RowLoader.Proofs.Examination
import RowLoader.Proofs.Names
import RowLoader.Proofs.WellFormed

/-!
Validation comes before every write. A run with an incomplete line or a repeated key cell ends in the
first of these problems whatever else is wrong, and leaves the store; no other run ends in one.
-/

namespace RowLoader.Run

open RowLoader.Header RowLoader.Source RowLoader.Dictionary

def Plan.problems (p : Plan) : List RowFault :=
  problemsOf p.fields p.separator p.firstRow p.data

/-- Some line of a plan is incomplete or repeats a key cell of an earlier complete one. -/
def Plan.Defective (p : Plan) : Prop :=
  Source.Defective p.fields p.separator p.data

def Plan.records (p : Plan) : List Record :=
  recordsFrom p.fields p.separator p.firstRow p.data

theorem Plan.problems_eq_nil {p : Plan} : p.problems = [] ↔ ¬ p.Defective := problemsOf_eq_nil

/-- Without defects every line of a plan is complete, and the records are its lines one by one. -/
theorem Plan.records_eq {p : Plan} (sound : p.problems = []) :
    p.records = p.data.mapIdx fun i line => recordOf p.fields p.separator (p.firstRow + i) line :=
  recordsFrom_of_complete (isComplete_of_problemsOf_nil sound)

theorem Plan.length_records {p : Plan} (sound : p.problems = []) :
    p.records.length = p.data.length := by
  rw [p.records_eq sound, List.length_mapIdx]

theorem fields_of_plan {header : Option String} {lines : List String} {p : Plan}
    (planned : plan header lines = .ok p) : ∃ tokens, p.fields = read tokens := by
  unfold plan at planned
  split at planned
  · cases planned
  · dsimp only at planned
    split at planned <;> cases planned <;> exact ⟨_, rfl⟩

theorem numbered_of_plan {header : Option String} {lines : List String} {p : Plan}
    (planned : plan header lines = .ok p) : Numbered p.fields := by
  obtain ⟨tokens, same⟩ := fields_of_plan planned
  rw [same]
  exact numbered_read tokens

theorem bare_target_of_plan {header : Option String} {lines : List String} {p : Plan}
    (planned : plan header lines = .ok p) : ∀ f ∈ p.fields, Identifier.bare f.target = f.target := by
  obtain ⟨tokens, same⟩ := fields_of_plan planned
  rw [same]
  exact fun f member => bare_target member

theorem ingest_plan {header : Option String} {lines : List String} {p : Plan}
    (planned : plan header lines = .ok p) :
    ingest p.fields p.separator p.firstRow p.data =
      match p.problems with
      | [] => .ok p.records
      | first :: rest => .error (.row first (first :: rest)) :=
  ingest_eq (numbered_of_plan planned) p.separator p.firstRow p.data

/-- The workspace in which the lines of a run are looked at: nothing is known of any column yet, and
the table of the template was read. -/
def begun (w : Workspace) : Workspace :=
  { w with memo := { w.memo with found := [] }, isOpen := true }

theorem tableOfTab_isTab {s : Store} {tab : Option Int} {table : String}
    (h : Dictionary.tableOfTab s tab = .ok (some table)) : tab.any (· ≠ 0) = true := by
  unfold Dictionary.tableOfTab at h
  split at h
  · cases h
  · rename_i n
    split at h
    · cases h
    · rename_i nonzero
      simpa using nonzero

theorem runOn_tableOf {template : Template} {w : Workspace} {table : String}
    (sound : w.breakdown = none)
    (shown : Dictionary.tableOfTab w.store template.tab = .ok (some table)) :
    (tableOf template).runOn w = (.ok table, { w with isOpen := true }) := by
  have read : (Work.tableOfTab template.tab).runOn w =
      (.ok (some table), { w with isOpen := true }) := by
    unfold Work.tableOfTab
    rw [if_pos (tableOfTab_isTab shown), Work.runOn_bind_of_ok (Work.runOn_store sound), shown]
    rfl
  unfold tableOf
  rw [Work.runOn_bind_of_ok read]
  rfl

theorem tableOf_ok {template : Template} {w : Workspace} {table : String}
    (named : ((tableOf template).runOn w).1 = .ok table) :
    w.breakdown = none ∧ Dictionary.tableOfTab w.store template.tab = .ok (some table) := by
  rcases ran : (tableOf template).runOn w with ⟨answer, w'⟩
  rw [ran] at named
  cases named
  unfold tableOf at ran
  obtain ⟨found, mid, read, ended⟩ := Work.bind_ok ran
  cases found with
  | none => cases ended
  | some name =>
      cases ended
      exact Work.tableOfTab_ok read

def importInto (table : String) (template : Template) (context : Context) (mode : Action)
    (lines : List String) : Work Report := do
  let p ← Work.ofFault (plan template.header lines)
  let records ← Work.ofFault (ingest p.fields p.separator p.firstRow p.data)
  let report : Report :=
    { Report.empty with table := some table, mode, totalRows := records.length }
  writeRecords table template context mode p.fields report records

/-- A run works on from where the table of its template is found, and leaves the memory of columns that it
met with. -/
theorem importLines_eq {template : Template} {w : Workspace} {table : String}
    (named : ((tableOf template).runOn w).1 = .ok table) (context : Context) (mode : Action)
    (lines : List String) :
    (importLines template context mode lines).runOn w =
      (((importInto table template context mode lines).runOn (begun w)).1,
        { ((importInto table template context mode lines).runOn (begun w)).2 with
          memo := w.memo.resume
            ((importInto table template context mode lines).runOn (begun w)).2.memo }) := by
  obtain ⟨sound, shown⟩ := tableOf_ok named
  have read : (tableOf template).runOn { w with memo := { w.memo with found := [] } } =
      (.ok table, begun w) := runOn_tableOf sound shown
  unfold importLines
  rw [Work.runOn_withFreshRecall, Work.runOn_bind_of_ok read]
  rfl

theorem runOn_importLines {template : Template} {w : Workspace} {table : String}
    (named : ((tableOf template).runOn w).1 = .ok table) (context : Context) (mode : Action)
    (lines : List String) :
    ((importLines template context mode lines).runOn w).1 =
        ((importInto table template context mode lines).runOn (begun w)).1 ∧
      ((importLines template context mode lines).runOn w).2.store =
        ((importInto table template context mode lines).runOn (begun w)).2.store := by
  rw [importLines_eq named]
  exact ⟨rfl, rfl⟩

theorem runOn_importInto (table : String) {template : Template} (context : Context) (mode : Action)
    {lines : List String} {p : Plan} (planned : plan template.header lines = .ok p)
    (w : Workspace) :
    (importInto table template context mode lines).runOn w =
      match p.problems with
      | [] =>
        (writeRecords table template context mode p.fields
          { Report.empty with table := some table, mode, totalRows := p.records.length }
          p.records).runOn w
      | first :: rest => (.error (.fault (.row first (first :: rest))), w) := by
  unfold importInto
  rw [planned, Work.runOn_bind_of_ok (Work.runOn_ofFault_ok p w), ingest_plan planned]
  cases p.problems with
  | nil => exact Work.runOn_bind_of_ok (Work.runOn_ofFault_ok p.records w) _
  | cons first rest => exact Work.runOn_bind_of_error (Work.runOn_ofFault_error _ w) _

theorem importInto_defective (table : String) {template : Template} (context : Context)
    (mode : Action) {lines : List String} {p : Plan} (planned : plan template.header lines = .ok p)
    (defective : p.Defective) (w : Workspace) :
    ∃ first rest, p.problems = first :: rest ∧
      (importInto table template context mode lines).runOn w =
        (.error (.fault (.row first (first :: rest))), w) := by
  have ran := runOn_importInto table context mode planned w
  cases found : p.problems with
  | nil => exact absurd defective (Plan.problems_eq_nil.mp found)
  | cons first rest =>
      rw [found] at ran
      exact ⟨first, rest, rfl, ran⟩

/-- A fault of a row that an examination finds comes from lines with a defect. -/
theorem importInto_structural {table : String} {template : Template} {context : Context}
    {mode : Action} {lines : List String} {w w' : Workspace} {first : RowFault}
    {problems : List RowFault}
    (h : (importInto table template context mode lines).runOn w =
      (.error (.fault (.row first problems)), w'))
    {q : RowFault} (member : q ∈ first :: problems) (structural : q.problem.IsStructural) :
    ∃ p, plan template.header lines = .ok p ∧ p.Defective := by
  cases planned : plan template.header lines with
  | error e =>
      unfold importInto at h
      rw [planned, Work.runOn_bind_of_error (Work.runOn_ofFault_error e w)] at h
      unfold plan at planned
      split at planned
      · cases planned
        cases h
      · dsimp only at planned
        split at planned <;> cases planned
  | ok p =>
      refine ⟨p, rfl, Classical.byContradiction fun sound => ?_⟩
      rw [runOn_importInto table context mode planned, Plan.problems_eq_nil.mpr sound] at h
      obtain ⟨record, _, ends⟩ := faultsIn_writeRecords table template context mode p.fields _
        p.records w _ w' h
      exact ends.not_structural q member structural

theorem tableOfTab_ne_fault (s : Store) (tab : Option Int) (e : Fault) :
    Dictionary.tableOfTab s tab ≠ .error (.fault e) := by
  unfold Dictionary.tableOfTab
  split
  · simp
  · split
    · simp
    · split <;> simp

theorem faultsIn_tableOf (template : Template) :
    Work.FaultsIn (fun e => e = .setup (.noTable template.tab)) (tableOf template) := by
  refine Work.FaultsIn.bind ?_ ?_
  · unfold Work.tableOfTab
    split
    · refine Work.faultsIn_store.bind ?_
      intro _ s _ _
      exact Work.faultsIn_ofExcept fun e failed => absurd failed (tableOfTab_ne_fault s _ e)
    · exact Work.faultsIn_pure _
  · intro _ found _ _
    cases found with
    | none =>
        refine Work.faultsIn_ofFault ?_
        intro e failed
        exact (Except.error.inj failed).symm
    | some table => exact Work.faultsIn_pure _

/-- A run that ends in a fault, unless it is that of a template without table, has found the table. -/
theorem tableOf_of_fault {template : Template} {context : Context} {mode : Action}
    {lines : List String} {w : Workspace} {f : Fault}
    (h : ((importLines template context mode lines).runOn w).1 = .error (.fault f))
    (other : f ≠ .setup (.noTable template.tab)) :
    ∃ table, ((tableOf template).runOn w).1 = .ok table := by
  unfold importLines at h
  rw [Work.runOn_withFreshRecall] at h
  rcases found : (tableOf template).runOn { w with memo := { w.memo with found := [] } } with
    ⟨e | table, mid⟩
  · rw [Work.runOn_bind_of_error found] at h
    cases h
    exact absurd (faultsIn_tableOf template _ _ _ found) other
  · obtain ⟨sound, shown⟩ := tableOf_ok (congrArg Prod.fst found)
    exact ⟨table, congrArg Prod.fst (runOn_tableOf (w := w) sound shown)⟩

/-- Where some line is incomplete or repeats a key cell of an earlier complete line, a run ends in the
first of these problems in the order of the lines, with all of them, and leaves the store, whatever
else the lines hold; and no other run ends in a problem of this kind. -/
theorem importLines_validates_first (template : Template) (context : Context) (mode : Action)
    (lines : List String) (w : Workspace) :
    (∀ table p, ((tableOf template).runOn w).1 = .ok table → plan template.header lines = .ok p →
        p.Defective →
        ∃ first rest, p.problems = first :: rest ∧
          ((importLines template context mode lines).runOn w).1 =
            .error (.fault (.row first (first :: rest))) ∧
          ((importLines template context mode lines).runOn w).2.store = w.store) ∧
      ∀ first problems, ((importLines template context mode lines).runOn w).1 =
          .error (.fault (.row first problems)) →
        (∃ q ∈ first :: problems, q.problem.IsStructural) →
        ∃ p, plan template.header lines = .ok p ∧ p.Defective ∧ problems = p.problems ∧
          p.problems.head? = some first ∧
          ((importLines template context mode lines).runOn w).2.store = w.store := by
  constructor
  · intro table p named planned defective
    obtain ⟨answer, store⟩ := runOn_importLines named context mode lines
    obtain ⟨first, rest, found, ran⟩ := importInto_defective table context mode planned
      defective (begun w)
    rw [answer, store, ran]
    exact ⟨first, rest, found, rfl, rfl⟩
  · rintro first problems failed ⟨q, member, structural⟩
    obtain ⟨table, named⟩ := tableOf_of_fault failed nofun
    obtain ⟨answer, store⟩ := runOn_importLines named context mode lines
    rw [answer] at failed
    obtain ⟨p, planned, defective⟩ :=
      importInto_structural (Prod.ext failed rfl) member structural
    obtain ⟨head, rest, found, ran⟩ := importInto_defective table context mode planned
      defective (begun w)
    rw [ran] at failed
    cases failed
    rw [store, ran]
    exact ⟨p, planned, defective, found.symm, by rw [found]; rfl, rfl⟩

def partTemplate : Template :=
  { id := 1, name := "Part", description := "", client := .whole 0, org := .whole 0,
    window := .null, tab := some 1, header := none, uuid := "", created := none }

def partWorkspace : Workspace :=
  ⟨Store.partStore, .empty, fun _ => "", 0, false, none⟩

/-- Lines with an amount that is none, then one that is incomplete, then one that repeats a key. -/
def defectiveParts : List String :=
  ["Value/K;Amount", "C;5", "D;many", "C", "C;7"]

/-- The lines end in what the examination finds, the incomplete line first, though a line before it
holds no amount. -/
theorem defectiveParts_validate_first :
    ((importLines partTemplate (.standard (Calendar.Date.midnight ⟨2026, 1, 2⟩)) .insert
        defectiveParts).runOn partWorkspace).1 =
      .error (.fault (.row ⟨4, none, none, .malformed 2 1 (.text "C")⟩
        [⟨4, none, none, .malformed 2 1 (.text "C")⟩,
          ⟨5, some 1, some "Value/K", .duplicateKey (.text "C") 2⟩])) := by
  have planned : plan partTemplate.header defectiveParts =
      .ok ⟨read [some "Value/K", some "Amount"], 2, ["C;5", "D;many", "C", "C;7"], .semicolon⟩ := by
    decide +kernel
  have named : ((tableOf partTemplate).runOn partWorkspace).1 = .ok "Part" := by decide +kernel
  obtain ⟨first, rest, found, answer, _⟩ := (importLines_validates_first partTemplate
    (.standard (Calendar.Date.midnight ⟨2026, 1, 2⟩)) .insert defectiveParts partWorkspace).1 _ _
    named planned ⟨2, "C", rfl, .inl (by decide +kernel)⟩
  have listed : Plan.problems
        ⟨read [some "Value/K", some "Amount"], 2, ["C;5", "D;many", "C", "C;7"], .semicolon⟩ =
      [⟨4, none, none, .malformed 2 1 (.text "C")⟩,
        ⟨5, some 1, some "Value/K", .duplicateKey (.text "C") 2⟩] := by decide +kernel
  rw [listed] at found
  cases found
  exact answer

end RowLoader.Run
