import Mathlib.Data.List.Forall2
import RowLoader.Proofs.Examination

/-!
What ingestion answers. Its problems are those of the lines one by one, each against the lines before
it; where there is none the lines become records one by one. A line counts by its first fields alone,
and an incomplete line counts for no line after it.
-/

namespace RowLoader.Source

open RowLoader.Text RowLoader.Header

/-- Everything that is wrong with some lines, line by line: each is seen against the lines before it. -/
def problemsByLine (fields : List Field) (separator : Separator) (firstRow : Int)
    (lines : List String) : List RowFault :=
  (lines.mapIdx fun i line =>
    lineProblems fields separator firstRow (lines.take i) line).flatten

theorem problemsAfter_eq_flatten (fields : List Field) (separator : Separator) (firstRow : Int)
    (earlier lines : List String) :
    problemsAfter fields separator firstRow earlier lines =
      (lines.mapIdx fun i line =>
        lineProblems fields separator firstRow (earlier ++ lines.take i) line).flatten := by
  induction lines generalizing earlier with
  | nil => rfl
  | cons line rest ih =>
      rw [problemsAfter, ih, List.mapIdx_cons, List.flatten_cons]
      simp only [List.take_zero, List.append_nil, List.take_succ_cons, List.append_assoc,
        List.singleton_append]

theorem problemsOf_eq_byLine (fields : List Field) (separator : Separator) (firstRow : Int)
    (lines : List String) :
    problemsOf fields separator firstRow lines = problemsByLine fields separator firstRow lines :=
  problemsAfter_eq_flatten fields separator firstRow [] lines

/-- Two lines that are both incomplete, or both complete with the same cells for some fields. -/
def Alike (fields : List Field) (separator : Separator) (line other : String) : Prop :=
  isComplete fields separator line = isComplete fields separator other ∧
    (isComplete fields separator line = true →
      (cellsOf separator line).take fields.length = (cellsOf separator other).take fields.length)

theorem findIdx?_of_forall₂ {α β : Type} {p : α → Bool} {q : β → Bool} {xs : List α} {ys : List β}
    (agree : List.Forall₂ (fun x y => p x = q y) xs ys) : xs.findIdx? p = ys.findIdx? q := by
  induction agree with
  | nil => rfl
  | cons here _ ih => rw [List.findIdx?_cons, List.findIdx?_cons, here, ih]

theorem Alike.lineCell_eq {fields : List Field} {separator : Separator} {line other : String}
    (alike : Alike fields separator line other) (numbered : Numbered fields)
    (complete : isComplete fields separator line = true) {f : Field} (key : f ∈ keys fields) :
    lineCell separator line f = lineCell separator other f := by
  unfold lineCell
  rw [← keyCell_take numbered key, alike.2 complete, keyCell_take numbered key]

/-- Where a cell came first is told by the first cells of the complete lines. -/
theorem firstWith?_of_alike {fields : List Field} (numbered : Numbered fields)
    {separator : Separator} {lines others : List String}
    (alike : List.Forall₂ (Alike fields separator) lines others) {f : Field}
    (key : f ∈ keys fields) (cell : String) :
    firstWith? fields separator f cell lines = firstWith? fields separator f cell others := by
  refine findIdx?_of_forall₂ (alike.imp ?_)
  intro line other pair
  cases complete : isComplete fields separator line with
  | false => rw [← pair.1, complete, Bool.false_and, Bool.false_and]
  | true => rw [← pair.1, complete, pair.lineCell_eq numbered complete key]

theorem lineProblems_of_alike {fields : List Field} (numbered : Numbered fields)
    {separator : Separator} (firstRow : Int) {earlier others : List String}
    (alike : List.Forall₂ (Alike fields separator) earlier others) {line other : String}
    (pair : Alike fields separator line other)
    (complete : isComplete fields separator line = true) :
    lineProblems fields separator firstRow earlier line =
      lineProblems fields separator firstRow others other := by
  unfold lineProblems
  dsimp only
  rw [if_pos complete, if_pos (pair.1 ▸ complete), alike.length_eq]
  apply List.filterMap_congr
  intro f key
  rw [pair.lineCell_eq numbered complete key, firstWith?_of_alike numbered alike key]

theorem lineProblems_of_incomplete {fields : List Field} {separator : Separator} {firstRow : Int}
    {earlier others : List String} (many : earlier.length = others.length) {line : String}
    (short : isComplete fields separator line = false) :
    lineProblems fields separator firstRow earlier line =
      lineProblems fields separator firstRow others line := by
  unfold lineProblems
  rw [if_neg (by simp [short]), if_neg (by simp [short]), many]

theorem forall₂_get {α β : Type} {R : α → β → Prop} {xs : List α} {ys : List β}
    (h : List.Forall₂ R xs ys) {i : Nat} {x : α} {y : β} (left : xs[i]? = some x)
    (right : ys[i]? = some y) : R x y := by
  obtain ⟨withinLeft, rfl⟩ := List.getElem?_eq_some_iff.mp left
  obtain ⟨withinRight, rfl⟩ := List.getElem?_eq_some_iff.mp right
  exact h.get withinLeft withinRight

theorem mapIdx_of_forall₂ {α β γ : Type} {R : α → β → Prop} {f : Nat → α → γ} {g : Nat → β → γ}
    {xs : List α} {ys : List β} (h : List.Forall₂ R xs ys)
    (same : ∀ i x y, xs[i]? = some x → ys[i]? = some y → f i x = g i y) :
    xs.mapIdx f = ys.mapIdx g := by
  refine List.ext_getElem? ?_
  intro i
  rw [List.getElem?_mapIdx, List.getElem?_mapIdx]
  cases left : xs[i]? with
  | none =>
      have beyond : ys[i]? = none := by
        rw [List.getElem?_eq_none_iff, ← h.length_eq]
        exact List.getElem?_eq_none_iff.mp left
      rw [beyond]
      rfl
  | some x =>
      have within : i < ys.length := h.length_eq ▸ (List.getElem?_eq_some_iff.mp left).1
      have right := List.getElem?_eq_getElem within
      rw [right]
      exact congrArg some (same i x _ left right)

/-- Lines that differ behind their fields only are ingested alike. -/
theorem ingest_of_alike {fields : List Field} (numbered : Numbered fields) (separator : Separator)
    (firstRow : Int) {lines others : List String}
    (alike : List.Forall₂ (fun line other => Alike fields separator line other ∧
      (isComplete fields separator line = false → line = other)) lines others) :
    ingest fields separator firstRow lines = ingest fields separator firstRow others := by
  have pairs := alike.imp fun _ _ both => both.1
  have problems : problemsOf fields separator firstRow lines =
      problemsOf fields separator firstRow others := by
    rw [problemsOf_eq_byLine, problemsOf_eq_byLine]
    unfold problemsByLine
    refine congrArg List.flatten (mapIdx_of_forall₂ alike ?_)
    intro i line other left right
    obtain ⟨pair, itself⟩ := forall₂_get alike left right
    cases complete : isComplete fields separator line with
    | true =>
        exact lineProblems_of_alike numbered firstRow (List.forall₂_take i pairs) pair complete
    | false =>
        rw [← itself complete]
        exact lineProblems_of_incomplete (List.forall₂_take i pairs).length_eq complete
  rw [ingest_eq numbered, ingest_eq numbered, problems]
  cases clean : problemsOf fields separator firstRow others with
  | cons first rest => rfl
  | nil =>
      dsimp only
      rw [recordsFrom_of_complete (isComplete_of_problemsOf_nil (problems.trans clean)),
        recordsFrom_of_complete (isComplete_of_problemsOf_nil clean)]
      refine congrArg Except.ok (mapIdx_of_forall₂ alike ?_)
      intro i line other left right
      have whole := isComplete_of_problemsOf_nil (problems.trans clean) line
        (List.mem_of_getElem? left)
      unfold recordOf
      rw [(forall₂_get alike left right).1.2 whole]

theorem ingestBy_separator (fields : List Field) {text : String} {separator : Separator}
    (spells : Separator.ofString? text = some separator) (firstRow : Int) (lines : List String) :
    ingestBy fields text firstRow lines =
      (ingest fields separator firstRow lines).mapError .fault := by
  unfold ingestBy
  cases lines with
  | nil => rfl
  | cons line rest => rw [spells]

/-- Ingestion finds, line by line and in the order of the header, one problem for an incomplete line and
one for every key cell that an earlier complete line has, with the first of these lines. It fails
exactly when there is a problem, and then by the first of them with all of them; else it answers with
one record for each line, numbered in order, of its first cells. No incomplete line counts for the
problems of another line, and what stands behind the fields of a complete line counts for nothing. -/
theorem ingest_tells_each_problem {fields : List Field} (numbered : Numbered fields)
    (separator : Separator) (firstRow : Int) (lines : List String) :
    (∀ e, ingest fields separator firstRow lines = .error e ↔
        ∃ first rest, problemsByLine fields separator firstRow lines = first :: rest ∧
          e = .row first (first :: rest)) ∧
      (∀ records, ingest fields separator firstRow lines = .ok records ↔
        problemsByLine fields separator firstRow lines = [] ∧
          records = lines.mapIdx fun i line =>
            ⟨firstRow + i, (cellsOf separator line).take fields.length⟩) ∧
      (∀ text, Separator.ofString? text = some separator →
        ingestBy fields text firstRow lines =
          (ingest fields separator firstRow lines).mapError .fault) ∧
      (∀ others, List.Forall₂ (Alike fields separator) lines others →
        ∀ (i : Nat) line other, lines[i]? = some line → others[i]? = some other →
          isComplete fields separator line = true →
          lineProblems fields separator firstRow (lines.take i) line =
            lineProblems fields separator firstRow (others.take i) other) ∧
      (∀ others, List.Forall₂ (fun line other => Alike fields separator line other ∧
          (isComplete fields separator line = false → line = other)) lines others →
        ingest fields separator firstRow lines = ingest fields separator firstRow others) := by
  have answer := ingest_eq numbered separator firstRow lines
  rw [problemsOf_eq_byLine] at answer
  refine ⟨?_, ?_, fun text spells => ingestBy_separator fields spells firstRow lines, ?_,
    fun others => ingest_of_alike numbered separator firstRow⟩
  · intro e
    rw [answer]
    cases problemsByLine fields separator firstRow lines with
    | nil => simp
    | cons first rest => simp [eq_comm]
  · intro records
    rw [answer]
    cases clean : problemsByLine fields separator firstRow lines with
    | cons first rest => simp
    | nil =>
        have each : recordsFrom fields separator firstRow lines =
            lines.mapIdx fun i line => recordOf fields separator (firstRow + i) line :=
          recordsFrom_of_complete
            (isComplete_of_problemsOf_nil ((problemsOf_eq_byLine ..).trans clean))
        unfold recordOf at each
        rw [each]
        simp [eq_comm]
  · intro others alike i line other left right complete
    exact lineProblems_of_alike numbered firstRow (List.forall₂_take i alike)
      (forall₂_get alike left right) complete

/-- Four lines for two key fields: the second is incomplete, so that its key is new in the last; the
third repeats both keys of the first, and the last repeats one. -/
theorem ingest_tells_repeated_parts :
    ingest (read [some "Value/K", some "Name", some "Code/K"]) .semicolon 2
        ["A; Axle;1;old", "B;Bolt", "A;Arm; 1", "B;Bolt;1"] =
      .error (.row ⟨3, none, none, .malformed 3 2 (.text "B;Bolt")⟩
        [⟨3, none, none, .malformed 3 2 (.text "B;Bolt")⟩,
          ⟨4, some 1, some "Value/K", .duplicateKey (.text "A") 2⟩,
          ⟨4, some 3, some "Code/K", .duplicateKey (.text "1") 2⟩,
          ⟨5, some 3, some "Code/K", .duplicateKey (.text "1") 2⟩]) := by
  have numbered : Numbered (read [some "Value/K", some "Name", some "Code/K"]) :=
    numbered_read _
  exact ((ingest_tells_each_problem numbered .semicolon 2
    ["A; Axle;1;old", "B;Bolt", "A;Arm; 1", "B;Bolt;1"]).1 _).mpr
      ⟨_, _, by decide +kernel, rfl⟩

end RowLoader.Source
