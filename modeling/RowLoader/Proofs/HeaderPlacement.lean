import RowLoader.Proofs.Joining
import RowLoader.Proofs.Renumbering

/-!
Where a header stands. Through a template that stores the tokens of a header, data lines are imported as
they are behind the line of these tokens through a template without a stored header, except that every
row carries the number before.
-/

namespace RowLoader

open RowLoader.Text RowLoader.Header RowLoader.Source RowLoader.Dictionary

namespace Header

theorem Field.read_trim (token : String) (position : Int) :
    Field.read (some (trim token)) position = Field.read (some token) position := by
  simp only [Field.read, Option.getD_some, toList_trim, trimChars_trimChars]

theorem read_trim (tokens : List String) :
    read ((tokens.map trim).map some) = read (tokens.map some) := by
  unfold read
  generalize (1 : Int) = position
  induction tokens generalizing position with
  | nil => rfl
  | cons token rest ih =>
      simp only [List.map_cons, readFrom, Field.read_trim]
      rw [ih]

end Header

namespace Source

/-- Where a line of tokens is not blank, the tokens are not blank under another separator either. -/
theorem allBlank_joined {separator : Separator} {tokens : List String}
    (filled : allBlank (joined separator tokens) = false) :
    tokens ≠ [] ∧ allBlank (joined .comma tokens) = false := by
  match tokens with
  | [] =>
      revert filled
      unfold joined
      simp [join, List.intercalate, allBlank]
  | [token] =>
      unfold joined at filled ⊢
      rw [List.map_singleton, join_singleton] at filled ⊢
      exact ⟨List.cons_ne_nil _ _, filled⟩
  | token :: next :: rest =>
      refine ⟨List.cons_ne_nil _ _, ?_⟩
      have comma : ',' ∈ (joined .comma (token :: next :: rest)).toList :=
        mem_joined_several (p := .comma) (by simp)
      unfold allBlank
      rw [List.all_eq_false]
      exact ⟨',', comma, by decide⟩

theorem tail_separatorOf (line : String) : (separatorOf line).tail = [] := by
  unfold separatorOf
  split
  · rfl
  · split <;> rfl

theorem inner_separatorOf (line : String) :
    ∀ c ∈ (separatorOf line).chars, isLineBoundary c = false := by
  unfold separatorOf
  split
  · exact List.forall_mem_singleton.mpr (by decide)
  · split <;> exact List.forall_mem_singleton.mpr (by decide)

end Source

theorem Dictionary.Template.tokens_joined {tokens : List String} (some : tokens ≠ [])
    (filled : allBlank (joined .comma tokens) = false) (free : ∀ t ∈ tokens, ',' ∉ t.toList) :
    Template.tokens (.some (joined .comma tokens)) = .some tokens := by
  unfold Template.tokens
  simp only [filled, Bool.false_eq_true, if_false]
  rw [split_joined (p := .comma) rfl some free, List.map_map]
  simp [Function.comp_def]

namespace Run

section

variable {table : String} {context : Context} {mode : Action} {template other : Template}
  (client : template.client = other.client) (org : template.org = other.org)
include client org

/-- Only the client and the organization of a template count for what is written. -/
theorem writeRecord_congr (fields : List Field) (record : Record) :
    writeRecord table template context mode fields record =
      writeRecord table other context mode fields record := by
  have insert : ∀ columns row, Write.insert table (some template) context columns row =
      Write.insert table (some other) context columns row := by
    intro columns row
    unfold Write.insert Complete.complete Complete.needed Complete.withOwner
    simp only [pure_bind, client, org]
  have update : ∀ columns row, Write.update table (some template) context fields columns row =
      Write.update table (some other) context fields columns row := by
    intro columns row
    unfold Write.update Write.updateBulk Complete.needed Write.bulkConditions
    simp only [pure_bind, client]
  unfold writeRecord
  simp only [insert, update]

theorem writeEach_congr (fields : List Field) (records : List Record) :
    writeEach table template context mode fields records =
      writeEach table other context mode fields records := by
  induction records with
  | nil => rfl
  | cons record rest ih =>
      unfold writeEach
      rw [writeRecord_congr client org, ih]

theorem Plan.carryOut_congr (p : Plan) :
    p.carryOut table template context mode = p.carryOut table other context mode := by
  unfold Plan.carryOut
  rw [writeEach_congr client org]

end

/-- Behind its header the lines have the plan that they have under the stored tokens, with every number
raised by the line of the header. -/
theorem plan_headed {tokens : List String} {header stored : Option String} {head first : String}
    {rest : List String} (missing : Template.tokens header = none)
    (kept : Template.tokens stored = some tokens)
    (cut : cellsOf (separatorOf head) head = tokens.map trim)
    (same : separatorOf first = separatorOf head) :
    plan header (head :: first :: rest) = (plan stored (first :: rest)).map (Plan.renumber 1) := by
  unfold plan
  simp only [missing, kept, cut, same, read_trim]
  rfl

theorem renumbers_importLines {k : Int} {template stored : Template} {lines others : List String}
    {p : Plan} (client : template.client = stored.client) (org : template.org = stored.org)
    (tab : template.tab = stored.tab) (planned : plan stored.header others = .ok p)
    (moved : plan template.header lines = .ok (p.renumber k)) (context : Context) (mode : Action) :
    Work.Renumbers k (Report.renumber k) (importLines stored context mode others)
      (importLines template context mode lines) := by
  have tables : tableOf template = tableOf stored := by
    unfold tableOf
    rw [tab]
  have inner : Work.Renumbers k (Report.renumber k)
      (tableOf stored >>= fun table => importInto table stored context mode others)
      (tableOf template >>= fun table => importInto table template context mode lines) := by
    rw [tables]
    refine Work.Renumbers.bind (g := id) ?_ ?_
    · refine Work.FaultsIn.renumbers ?_
      intro w f w' failed
      rw [faultsIn_tableOf stored w f w' failed]
      exact trivial
    · intro table
      rw [id_eq, importInto_eq planned, importInto_eq moved, Plan.carryOut_congr client org]
      exact p.renumbers_carryOut k table stored context mode
  exact inner.withFreshRecall

theorem renumbers_runLines {k : Int} {template stored : Template} {lines others : List String}
    {p : Plan} (client : template.client = stored.client) (org : template.org = stored.org)
    (tab : template.tab = stored.tab) (planned : plan stored.header others = .ok p)
    (moved : plan template.header lines = .ok (p.renumber k)) (context : Context) (mode : Action) :
    Work.Renumbers k (Report.renumber k) (runLines (some stored) context mode others)
      (runLines (some template) context mode lines) := by
  refine Work.Renumbers.bind (g := id) (Work.renumbers_ofExcept ?_) ?_
  · cases mode <;> rfl
  · intro _
    exact renumbers_importLines client org tab planned moved context mode

/-- A template without a stored header does with a header line and data lines what one that stores the
tokens of this line, joined by commas, does with the data lines, wherever the two differ otherwise in
number and name only: both leave the same workspace, and either both report, every row of the first
being one larger, or both fail, and then the failures are the same but for the numbers of rows, which
are one larger in the first. -/
theorem header_line_or_stored {template stored : Template} {separator : Separator}
    {tokens : List String} {first : String} (rest : List String)
    (missing : Template.tokens template.header = none)
    (alike : stored = { template with
      id := stored.id, name := stored.name, header := some (joined .comma tokens) })
    (filled : allBlank (joined separator tokens) = false)
    (free : ∀ t ∈ tokens, ',' ∉ t.toList ∧ separator.head ∉ t.toList)
    (headed : separatorOf (joined separator tokens) = separator)
    (same : separatorOf first = separator) (context : Context) (mode : Action) (w : Workspace) :
    let headed := (runLines (some template) context mode
      (joined separator tokens :: first :: rest)).runOn w
    let bare := (runLines (some stored) context mode (first :: rest)).runOn w
    headed.2 = bare.2 ∧
      ((∃ report, bare.1 = .ok report ∧ headed.1 = .ok (report.renumber 1)) ∨
        ∃ e, bare.1 = .error e ∧ headed.1 = .error (e.renumber 1)) := by
  obtain ⟨some, comma⟩ := allBlank_joined filled
  have kept : Template.tokens stored.header = .some tokens := by
    rw [alike]
    exact Template.tokens_joined some comma fun t member => (free t member).1
  have cut : cellsOf (separatorOf (joined separator tokens)) (joined separator tokens) =
      tokens.map trim := by
    rw [headed]
    refine cellsOf_joined ?_ some fun t member => (free t member).2
    rw [← headed]
    exact tail_separatorOf _
  obtain ⟨p, planned⟩ : ∃ p, plan stored.header (first :: rest) = .ok p := by
    unfold plan
    rw [kept]
    exact ⟨_, rfl⟩
  have moved : plan template.header (joined separator tokens :: first :: rest) =
      (plan stored.header (first :: rest)).map (Plan.renumber 1) :=
    plan_headed missing kept cut (same.trans headed.symm)
  rw [planned] at moved
  have ran := renumbers_runLines (congrArg (·.client) alike).symm (congrArg (·.org) alike).symm
    (congrArg (·.tab) alike).symm planned moved context mode w
  intro headed bare
  change headed = _ at ran
  rw [ran]
  refine ⟨rfl, ?_⟩
  change (∃ report, bare.1 = _ ∧ renumbered 1 (Report.renumber 1) bare.1 = _) ∨ _
  cases bare.1 with
  | ok report => exact .inl ⟨report, rfl, rfl⟩
  | error e => exact .inr ⟨e, rfl, rfl⟩

def keyedPartTemplate : Template :=
  { partTemplate with id := 2, name := "Keyed parts", header := some "Value/K, Amount" }

/-- The rows of a repeated key are told one later where a line with the header comes first. -/
theorem header_line_or_stored_parts :
    let fault := fun row first => Failure.fault
      (.ofRow ⟨row, some 1, some "Value/K", .duplicateKey (.text "C") first⟩)
    ((runLines (some keyedPartTemplate) (.standard (Calendar.Date.midnight ⟨2026, 1, 2⟩)) .insert
        ["C;5", "D;6", "C;7"]).runOn partWorkspace).1 = .error (fault 3 1) ∧
      ((runLines (some partTemplate) (.standard (Calendar.Date.midnight ⟨2026, 1, 2⟩)) .insert
        ["Value/K; Amount", "C;5", "D;6", "C;7"]).runOn partWorkspace).1 = .error (fault 4 2) := by
  intro fault
  have bare : ((runLines (some keyedPartTemplate)
      (.standard (Calendar.Date.midnight ⟨2026, 1, 2⟩)) .insert
        ["C;5", "D;6", "C;7"]).runOn partWorkspace).1 = .error (fault 3 1) := by decide +kernel
  refine ⟨bare, ?_⟩
  have line : joined .semicolon ["Value/K", " Amount"] = "Value/K; Amount" := by decide +kernel
  have alike : keyedPartTemplate = { partTemplate with
      id := 2, name := "Keyed parts", header := some (joined .comma ["Value/K", " Amount"]) } := by
    decide +kernel
  have placed := header_line_or_stored ["D;6", "C;7"] rfl alike (line ▸ (by decide +kernel))
    (by decide +kernel) (line ▸ (by decide +kernel))
    (show separatorOf "C;5" = .semicolon by decide +kernel)
    (.standard (Calendar.Date.midnight ⟨2026, 1, 2⟩)) .insert partWorkspace
  obtain ⟨_, ⟨report, answer, _⟩ | ⟨e, answer, moved⟩⟩ := placed
  · cases bare.symm.trans answer
  · cases bare.symm.trans answer
    exact moved

end Run

end RowLoader
