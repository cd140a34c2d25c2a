import RowLoader.Proofs.Names
import RowLoader.Proofs.Preparation
import RowLoader.Session

/-!
Columns asked for again and again. What is remembered of columns agrees with the dictionary as long as
the tables that describe columns stay, so every question is answered as if it were the first one,
however many came before. The spelling of names of ASCII does not count.
-/

namespace RowLoader.Dictionary

open RowLoader.Store RowLoader.Text RowLoader.Resolve

/-- What is asked about a column: its kind, the greatest length of its texts, or whether it is listed. -/
inductive Aspect where
  | kind
  | length
  | listed
deriving Repr, DecidableEq

structure Question where
  aspect : Aspect
  table : String
  column : String
deriving Repr, DecidableEq

inductive Answer where
  | kind (k : Kind)
  | length (limit : Cell)
  | listed (b : Bool)
deriving Repr, DecidableEq

namespace Question

def ask (q : Question) : Work Answer :=
  match q.aspect with
  | .kind => do return .kind (kindOf (← Work.columnInfo q.table q.column))
  | .length => do return .length (lengthOf (← Work.columnInfo q.table q.column))
  | .listed => do return .listed (← Work.hasColumn q.table q.column)

def answer (s : Store) (m : Recall) (q : Question) : Answer :=
  match q.aspect with
  | .kind => .kind (kindOf (Dictionary.ask s m q.table q.column).1)
  | .length => .length (lengthOf (Dictionary.ask s m q.table q.column).1)
  | .listed => .listed (locate s m q.table q.column).1.isSome

theorem runOn_ask {w : Workspace} (usable : w.breakdown = none) (q : Question) :
    ∃ w', q.ask.runOn w = (.ok (q.answer w.store w.memo), w') ∧ Asked w w' := by
  obtain ⟨aspect, table, column⟩ := q
  have more := extends_ask w.store w.memo table column
  obtain ⟨opened, told⟩ := runOn_columnInfo usable table column
  unfold ask answer
  cases aspect with
  | kind => exact ⟨_, Work.runOn_bind_of_ok told _, more, opened, rfl⟩
  | length => exact ⟨_, Work.runOn_bind_of_ok told _, more, opened, rfl⟩
  | listed =>
      obtain ⟨w', found, asked, _⟩ := Complete.runOn_hasColumn_asked usable table column
      exact ⟨w', Work.runOn_bind_of_ok found _, asked⟩

theorem answer_congr {s : Store} (sound : s.WellFormed) (m : Recall) {aspect : Aspect}
    {table column table' column' : String} (same : columnKey table column = columnKey table' column') :
    answer s m ⟨aspect, table, column⟩ = answer s m ⟨aspect, table', column'⟩ := by
  have located : (locate s m table column).1 = (locate s m table' column').1 := by
    rw [locate_fst, locate_fst, same]
  unfold answer
  dsimp only
  rw [ask_fst sound, ask_fst sound, located]

end Question

/-- What is remembered as found or not found is what the store says. -/
def Recall.Agrees (s : Store) (m : Recall) : Prop :=
  ∀ key found, m.found.lookup key = some found → found = (find? s key.1 key.2).map (·.id)

theorem Recall.agrees_of_new {m : Recall} (new : m.found = []) (s : Store) : m.Agrees s := by
  intro key found known
  rw [new] at known
  cases known

theorem Recall.Agrees.extended {s : Store} {m m' : Recall} (agrees : m.Agrees s)
    (more : m.Extends s m') : m'.Agrees s := by
  intro key found known
  rcases more.found key with same | ⟨_, learnt⟩
  · exact agrees key found (same ▸ known)
  · rw [learnt] at known
    exact (Option.some.inj known).symm

/-- A memory that agrees with a store goes on to agree while the tables that describe columns stay. -/
theorem Recall.Agrees.congr {s s' : Store} {m m' : Recall} (agrees : m.Agrees s)
    (tables : s'.table? tableTable = s.table? tableTable)
    (columns : s'.table? columnTable = s.table? columnTable) (same : m'.found = m.found) :
    m'.Agrees s' := by
  intro key found known
  rw [find?_congr tables columns]
  exact agrees key found (same ▸ known)

/-- A memory that agrees with the store answers as if nothing had been found. -/
theorem Recall.Agrees.answer_eq {s : Store} (sound : s.WellFormed) {m : Recall}
    (agrees : m.Agrees s) (q : Question) :
    q.answer s m = q.answer s { m with found := [] } := by
  have located : (locate s m q.table q.column).1 =
      (locate s { m with found := [] } q.table q.column).1 := by
    rw [locate_fst, locate_fst]
    cases known : m.found.lookup (columnKey q.table q.column) with
    | none => rfl
    | some found => exact agrees _ found known
  have consulted : ∀ id, (consult s m id).1 = (consult s { m with found := [] } id).1 := by
    intro id
    rw [consult_fst, consult_fst]
    rfl
  unfold Question.answer
  rw [ask_fst sound, ask_fst sound, located, funext consulted]

/-- What was read of a row is what the row says now. -/
def Recall.Current (s : Store) (m : Recall) : Prop :=
  ∀ id info, m.reading? id = some info → ∃ r ∈ rowsOf s columnTable, r.id = id ∧ info = infoOf s r

theorem Recall.current_empty (s : Store) : Recall.empty.Current s := nofun

theorem Recall.Current.extended {s : Store} {m m' : Recall} (current : m.Current s)
    (more : m.Extends s m') : m'.Current s := by
  intro id info told
  rcases more.read id with same | ⟨_, r, member, named, learnt⟩
  · exact current id info (same ▸ told)
  · rw [learnt] at told
    exact ⟨r, member, named, (Option.some.inj told).symm⟩

theorem Recall.Current.answer_eq {s : Store} (sound : s.WellFormed) {m : Recall}
    (current : m.Current s) (q : Question) :
    q.answer s { m with found := [] } = q.answer s .empty := by
  have located : (locate s { m with found := [] } q.table q.column).1 =
      (locate s .empty q.table q.column).1 := by
    rw [locate_fst, locate_fst]
    rfl
  have consulted : ∀ id, (consult s { m with found := [] } id).1 = (consult s .empty id).1 := by
    intro id
    rw [consult_fst, consult_fst]
    change (m.reading? id).or _ = _
    cases told : m.reading? id with
    | none => rfl
    | some info =>
        obtain ⟨r, member, rfl, rfl⟩ := current id info told
        rw [find?_rowsOf sound member]
        rfl
  unfold Question.answer
  rw [ask_fst sound, ask_fst sound, located, funext consulted]

/-- The dictionary of columns is the same, and readings that were current still are. -/
structure SameColumns (w v : Workspace) : Prop where
  tables : v.store.table? tableTable = w.store.table? tableTable
  columns : v.store.table? columnTable = w.store.table? columnTable
  current : w.memo.Current w.store → v.memo.Current v.store

theorem SameColumns.refl (w : Workspace) : SameColumns w w := ⟨rfl, rfl, id⟩

theorem SameColumns.trans {u v w : Workspace} (first : SameColumns u v) (second : SameColumns v w) :
    SameColumns u w :=
  ⟨second.tables.trans first.tables, second.columns.trans first.columns,
    second.current ∘ first.current⟩

theorem sameColumns_of_asked {w v : Workspace} (asked : Resolve.Asked w v) : SameColumns w v := by
  refine ⟨by rw [asked.store], by rw [asked.store], ?_⟩
  intro current
  rw [asked.store]
  exact current.extended asked.more

theorem SameColumns.answer_eq {w v : Workspace} (same : SameColumns w v)
    (sound : w.store.WellFormed) (sound' : v.store.WellFormed) (m : Recall) (q : Question) :
    q.answer v.store m = q.answer w.store m := by
  unfold Question.answer
  rw [ask_fst sound, ask_fst sound', locate_congr same.tables same.columns,
    funext (consult_congr same.columns m)]

/-- What may happen between two questions: whatever leaves the dictionary of columns and what was found
in it. -/
structure Follows (w v : Workspace) : Prop where
  same : SameColumns w v
  found : v.memo.found = w.memo.found
  usable : v.breakdown = none
  sound : v.store.WellFormed

/-- Questions that are asked one after another from a workspace on, each with the workspace that it is
asked on. -/
inductive Consultation : Workspace → List (Workspace × Question) → Prop where
  | done {w} : Consultation w []
  | ask {w asked} (q : Question) : Consultation (q.ask.runOn w).2 asked →
      Consultation w ((w, q) :: asked)
  | other {w v asked} : Follows w v → Consultation v asked → Consultation w asked

structure Consultable (w : Workspace) : Prop where
  usable : w.breakdown = none
  sound : w.store.WellFormed
  agrees : w.memo.Agrees w.store

theorem Consultable.follows {w v : Workspace} (ready : Consultable w) (next : Follows w v) :
    Consultable v :=
  ⟨next.usable, next.sound, ready.agrees.congr next.same.tables next.same.columns next.found⟩

theorem Consultable.asked {w v : Workspace} (ready : Consultable w) (asked : Resolve.Asked w v) :
    Consultable v := by
  refine ⟨asked.breakdown.trans ready.usable, ?_, ?_⟩
  · rw [asked.store]
    exact ready.sound
  · rw [asked.store]
    exact ready.agrees.extended asked.more

/-- Wherever a question is asked, the workspace can be consulted and has the dictionary of the
beginning. -/
theorem Consultation.consultable {w : Workspace} {asked : List (Workspace × Question)}
    (history : Consultation w asked) (ready : Consultable w) :
    ∀ e ∈ asked, Consultable e.1 ∧ SameColumns w e.1 := by
  induction history with
  | done => exact nofun
  | @ask w rest q _ ih =>
      -- to answer is to learn what the store says, which agrees with it
      obtain ⟨v, told, asks⟩ := q.runOn_ask ready.usable
      rw [told] at ih
      rintro e (_ | ⟨_, later⟩)
      · exact ⟨ready, .refl w⟩
      · obtain ⟨usable, same⟩ := ih (ready.asked asks) e later
        exact ⟨usable, (sameColumns_of_asked asks).trans same⟩
  | other next _ ih =>
      intro e later
      obtain ⟨usable, same⟩ := ih (ready.follows next) e later
      exact ⟨usable, next.same.trans same⟩

theorem Consultable.runOn_ask {w : Workspace} (ready : Consultable w) (q : Question) :
    (q.ask.runOn w).1 = .ok (q.answer w.store { w.memo with found := [] }) := by
  obtain ⟨w', told, _⟩ := q.runOn_ask ready.usable
  rw [told, ready.agrees.answer_eq ready.sound]

/-- Work that finds columns on its own answers by a memory without anything found. -/
theorem runOn_ask_fresh {w : Workspace} (usable : w.breakdown = none) (q : Question) :
    ((Work.withFreshRecall q.ask).runOn w).1 =
      .ok (q.answer w.store { w.memo with found := [] }) := by
  rw [Work.runOn_withFreshRecall]
  obtain ⟨w', told, _⟩ := q.runOn_ask (w := { w with memo := { w.memo with found := [] } }) usable
  rw [told]

theorem runOn_ask_start (s : Store) (uniqueId : Nat → String) (q : Question) :
    (q.ask.runOn (Session.start s uniqueId).work).1 = .ok (q.answer s .empty) := by
  obtain ⟨w', told, _⟩ := q.runOn_ask (w := (Session.start s uniqueId).work) rfl
  rw [told]
  rfl

/-- Two questions for the same, with names of ASCII that differ in the case of letters at most. -/
structure Question.Respelt (p q : Question) : Prop where
  aspect : p.aspect = q.aspect
  table : sameName p.table q.table = true
  column : sameName p.column q.column = true
  ascii : IsAscii p.table ∧ IsAscii p.column ∧ IsAscii q.table ∧ IsAscii q.column

theorem Question.Respelt.answer_eq {s : Store} (sound : s.WellFormed) (m : Recall) {p q : Question}
    (respelt : p.Respelt q) : p.answer s m = q.answer s m := by
  obtain ⟨same, tables, columns, asciiTable, asciiColumn, asciiTable', asciiColumn'⟩ := respelt
  obtain ⟨aspect, table, column⟩ := p
  obtain ⟨aspect', table', column'⟩ := q
  dsimp only at *
  subst same
  refine answer_congr sound m ?_
  unfold columnKey
  rw [(sameName_iff_upper asciiTable asciiTable').mp tables,
    (sameName_iff_upper asciiColumn asciiColumn').mp columns]

/-- A row of the dictionary describes a column of these names, under any spelling. -/
def Registers (s : Store) (table column : String) : Prop :=
  ∃ c ∈ rowsOf s columnTable, ∃ t ∈ rowsOf s tableTable,
    intOf? s columnTable "AD_Table_ID" c = some t.id ∧
      sameName (textOf s tableTable "TableName" t) table = true ∧
      sameName (textOf s columnTable "ColumnName" c) column = true

instance (s : Store) (table column : String) : Decidable (Registers s table column) :=
  inferInstanceAs (Decidable (∃ c ∈ rowsOf s columnTable, ∃ t ∈ rowsOf s tableTable, _ ∧ _ ∧ _))

theorem isSome_find?_iff {s : Store} {table column : String} (asciiTable : IsAscii table)
    (asciiColumn : IsAscii column) :
    (find? s (columnKey table column).1 (columnKey table column).2).isSome = true ↔
      Registers s table column := by
  unfold find? Registers belongsTo columnKey
  simp only [List.find?_isSome, namesAgree_upper asciiTable, namesAgree_upper asciiColumn,
    Bool.and_eq_true, List.any_eq_true, beq_iff_eq]
  constructor
  · rintro ⟨c, inside, ⟨t, known, owner, named⟩, spelt⟩
    exact ⟨c, inside, t, known, owner.symm, named, spelt⟩
  · rintro ⟨c, inside, t, known, owner, named, spelt⟩
    exact ⟨c, inside, ⟨t, known, owner.symm, named⟩, spelt⟩

/-- A column is listed where the dictionary registers it under some spelling. -/
theorem answer_listed_iff {s : Store} (m : Recall) {table column : String}
    (asciiTable : IsAscii table) (asciiColumn : IsAscii column) :
    Question.answer s { m with found := [] } ⟨.listed, table, column⟩ = .listed true ↔
      Registers s table column := by
  rw [← isSome_find?_iff asciiTable asciiColumn]
  change Answer.listed (locate s _ table column).1.isSome = _ ↔ _
  rw [locate_fst, Answer.listed.injEq]
  change ((none : Option (Option Int)).getD _).isSome = true ↔ _
  rw [Option.getD_none, Option.isSome_map]

/-- While the dictionary of columns stays, each of any number of questions is answered as by a memory
that has found nothing yet, and, unless readings were stale at the beginning, as by a session of its
own at the beginning. For names of ASCII that answer is given for every spelling, and a column that
is registered under one of them is listed. -/
theorem memory_is_invisible {w : Workspace} {asked : List (Workspace × Question)}
    (usable : w.breakdown = none) (sound : w.store.WellFormed) (new : w.memo.found = [])
    (history : Consultation w asked) :
    ∀ e ∈ asked, ∃ a, (e.2.ask.runOn e.1).1 = .ok a ∧
      ((Work.withFreshRecall e.2.ask).runOn e.1).1 = .ok a ∧
      (w.memo.Current w.store → ∀ uniqueId,
        (e.2.ask.runOn (Session.start w.store uniqueId).work).1 = .ok a) ∧
      (∀ q : Question, q.Respelt e.2 → ((Work.withFreshRecall q.ask).runOn e.1).1 = .ok a) ∧
      (e.2.aspect = .listed → IsAscii e.2.table → IsAscii e.2.column →
        (a = .listed true ↔ Registers w.store e.2.table e.2.column)) := by
  intro e member
  obtain ⟨v, q⟩ := e
  obtain ⟨ready, same⟩ :=
    history.consultable ⟨usable, sound, Recall.agrees_of_new new w.store⟩ _ member
  dsimp only at ready same ⊢
  refine ⟨q.answer v.store { v.memo with found := [] }, ready.runOn_ask q,
    runOn_ask_fresh ready.usable q, ?_, ?_, ?_⟩
  · intro current uniqueId
    rw [runOn_ask_start, (same.current current).answer_eq ready.sound,
      same.answer_eq sound ready.sound]
  · intro p respelt
    rw [runOn_ask_fresh ready.usable p, respelt.answer_eq ready.sound]
  · intro listed asciiTable asciiColumn
    obtain ⟨aspect, table, column⟩ := q
    dsimp only at *
    subst listed
    rw [same.answer_eq sound ready.sound]
    exact answer_listed_iff v.memo asciiTable asciiColumn

/-- After its kind was asked for and an id was drawn, a column is listed under another spelling, as it
would be at once, and one that nobody registered is not. -/
theorem part_columns_answered : ∃ first second third : Workspace,
    first = (Session.start Store.partStore fun _ => "").work ∧
    Consultation first [(first, ⟨.kind, "Part", "Amount"⟩), (second, ⟨.listed, "PART", "amount"⟩),
      (third, ⟨.listed, "Part", "Colour"⟩)] ∧
    (Question.ask ⟨.listed, "PART", "amount"⟩ |>.runOn second).1 = .ok (.listed true) ∧
    (Question.ask ⟨.listed, "PART", "amount"⟩ |>.runOn first).1 = .ok (.listed true) ∧
    (Question.ask ⟨.listed, "Part", "Colour"⟩ |>.runOn third).1 ≠ .ok (.listed true) := by
  obtain ⟨first, start⟩ : ∃ first, first = (Session.start Store.partStore fun _ => "").work :=
    ⟨_, rfl⟩
  have usable : first.breakdown = none := by rw [start]; rfl
  have store : first.store = Store.partStore := by rw [start]; rfl
  have sound : first.store.WellFormed := store ▸ Store.wellFormed_partStore
  obtain ⟨v, told, asks⟩ := Question.runOn_ask usable ⟨.kind, "Part", "Amount"⟩
  have drawn : Follows v { v with drawn := v.drawn + 1 } :=
    ⟨⟨rfl, rfl, id⟩, rfl, asks.breakdown.trans usable, by rw [asks.store]; exact sound⟩
  have history := Consultation.ask (w := first) ⟨.kind, "Part", "Amount"⟩ (by
    rw [told]
    exact .other drawn (.ask ⟨.listed, "PART", "amount"⟩ (.ask ⟨.listed, "Part", "Colour"⟩ .done)))
  have answers := memory_is_invisible usable sound (by rw [start]; rfl) history
  have ascii : ∀ name ∈ ["Part", "PART", "amount", "Colour"], IsAscii name := by decide
  have registered : Registers Store.partStore "PART" "amount" := by decide +kernel
  have unknown : ¬ Registers Store.partStore "Part" "Colour" := by decide +kernel
  rw [← store] at registered unknown
  have current : first.memo.Current first.store := by
    rw [start]
    exact Recall.current_empty _
  refine ⟨first, _, _, start, history, ?_⟩
  obtain ⟨a, answered, _, alone, _, listed⟩ :=
    answers _ (List.mem_cons_of_mem _ List.mem_cons_self)
  have told := (listed rfl (ascii _ (by simp)) (ascii _ (by simp))).mpr registered
  refine ⟨answered.trans (congrArg _ told), ?_, ?_⟩
  · have atOnce := alone current fun _ => ""
    rw [store, ← start, told] at atOnce
    exact atOnce
  · obtain ⟨a, answered, _, _, _, listed⟩ :=
      answers _ (List.mem_cons_of_mem _ (List.mem_cons_of_mem _ List.mem_cons_self))
    rw [answered]
    intro same
    exact unknown ((listed rfl (ascii _ (by simp)) (ascii _ (by simp))).mp (Except.ok.inj same))

end RowLoader.Dictionary
