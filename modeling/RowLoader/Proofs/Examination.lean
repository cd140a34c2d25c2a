import Mathlib.Data.List.Basic
import RowLoader.Proofs.Work
import RowLoader.Run

/-!
What an examination of data lines finds. The state that it carries from line to line is replaced by the
lines that came before: a line is incomplete or not by itself, and a key cell is repeated when an
earlier complete line has it.
-/

namespace RowLoader

namespace Header

def Numbered (fields : List Field) : Prop :=
  ∀ (i : Nat) f, fields[i]? = some f → f.position = i + 1

theorem numbered_read (tokens : List (Option String)) : Numbered (read tokens) := by
  intro i f found
  rw [read, getElem?_readFrom] at found
  obtain ⟨token, _, rfl⟩ := Option.map_eq_some_iff.mp found
  rw [position_read]
  exact Int.add_comm 1 i

theorem Numbered.within {fields : List Field} (numbered : Numbered fields) {f : Field}
    (member : f ∈ fields) : 1 ≤ f.position ∧ f.position ≤ fields.length := by
  obtain ⟨i, found⟩ := List.getElem?_of_mem member
  have bound := (List.getElem?_eq_some_iff.mp found).1
  rw [numbered i f found]
  omega

theorem length_read (tokens : List String) : (read (tokens.map some)).length = tokens.length := by
  simp [read]

theorem label_read (token : String) (position : Int) :
    (Field.read (some token) position).label = Text.trim token := by
  unfold Field.read Field.label
  dsimp only
  split <;> rfl

theorem map_label_read (tokens : List String) :
    (read (tokens.map some)).map Field.label = tokens.map Text.trim := by
  refine List.ext_getElem? ?_
  intro i
  rw [List.getElem?_map, read, getElem?_readFrom, List.getElem?_map, List.getElem?_map]
  cases tokens[i]? with
  | none => rfl
  | some token => exact congrArg some (label_read token _)

end Header

namespace Source

open RowLoader.Text RowLoader.Header

def isComplete (fields : List Field) (separator : Separator) (line : String) : Bool :=
  fields.length ≤ (cellsOf separator line).length

def lineCell (separator : Separator) (line : String) (f : Field) : String :=
  keyCell (cellsOf separator line) f

def recordOf (fields : List Field) (separator : Separator) (row : Int) (line : String) : Record :=
  ⟨row, (cellsOf separator line).take fields.length⟩

/-- The first of some lines that is complete and has a cell for a field. -/
def firstWith? (fields : List Field) (separator : Separator) (f : Field) (cell : String)
    (lines : List String) : Option Nat :=
  lines.findIdx? fun line => isComplete fields separator line && lineCell separator line f == cell

/-- What is wrong with a line that comes after some others. -/
def lineProblems (fields : List Field) (separator : Separator) (firstRow : Int)
    (earlier : List String) (line : String) : List RowFault :=
  let row := firstRow + earlier.length
  if isComplete fields separator line then
    (keys fields).filterMap fun f =>
      (firstWith? fields separator f (lineCell separator line f) earlier).map fun i : Nat =>
        ⟨row, some f.position, some f.label,
          .duplicateKey (.text (lineCell separator line f)) (firstRow + i)⟩
  else
    [⟨row, none, none,
      .malformed fields.length (cellsOf separator line).length (.text line)⟩]

def problemsAfter (fields : List Field) (separator : Separator) (firstRow : Int)
    (earlier : List String) : List String → List RowFault
  | [] => []
  | line :: rest =>
    lineProblems fields separator firstRow earlier line
      ++ problemsAfter fields separator firstRow (earlier ++ [line]) rest

def recordsFrom (fields : List Field) (separator : Separator) (row : Int) :
    List String → List Record
  | [] => []
  | line :: rest =>
    if isComplete fields separator line then
      recordOf fields separator row line :: recordsFrom fields separator (row + 1) rest
    else recordsFrom fields separator (row + 1) rest

/-- Some line has no cell for some field, or has the cell of an earlier complete line for a key
field. -/
def Defective (fields : List Field) (separator : Separator) (lines : List String) : Prop :=
  ∃ i line, lines[i]? = some line ∧
    (isComplete fields separator line = false ∨
      ∃ f ∈ keys fields, ∃ (j : Nat) (earlier : String), j < i ∧ lines[j]? = some earlier ∧
        isComplete fields separator earlier = true ∧
        lineCell separator earlier f = lineCell separator line f)

theorem row?_append (seen : Seen) (position p : Int) (entered cell : String) (row : Int) :
    Seen.row? (seen ++ [(position, entered, row)]) p cell =
      (seen.row? p cell).or (if position = p ∧ entered = cell then some row else none) := by
  unfold Seen.row?
  rw [List.find?_append]
  cases seen.find? (fun s => s.1 = p && s.2.1 = cell) with
  | some s => rfl
  | none =>
      by_cases same : position = p ∧ entered = cell
      · simp [same]
      · rw [if_neg same, List.find?_cons_of_neg (by simpa using same)]
        rfl

/-- A record is entered behind what was seen: it is found only where nothing was found before. -/
theorem row?_enter (seen : Seen) (row : Int) (cells : List String) (keyFields : List Field) (p : Int)
    (cell : String) :
    (enter seen row cells keyFields).row? p cell = (seen.row? p cell).or
      (if ∃ f ∈ keyFields, f.position = p ∧ keyCell cells f = cell then some row else none) := by
  induction keyFields generalizing seen with
  | nil => simp [enter]
  | cons f rest ih =>
      have later : enter seen row cells (f :: rest) =
          enter (if (seen.row? f.position (keyCell cells f)).isSome then seen
            else seen ++ [(f.position, keyCell cells f, row)]) row cells rest := rfl
      rw [later, ih]
      by_cases here : f.position = p ∧ keyCell cells f = cell
      · have found : ∃ g ∈ f :: rest, g.position = p ∧ keyCell cells g = cell :=
          ⟨f, List.mem_cons_self, here⟩
        rw [if_pos found, here.1, here.2]
        cases known : seen.row? p cell with
        | some first => simp [known]
        | none =>
            rw [Option.isSome_none, if_neg Bool.false_ne_true, row?_append, known]
            simp
      · have same : (∃ g ∈ f :: rest, g.position = p ∧ keyCell cells g = cell) ↔
            ∃ g ∈ rest, g.position = p ∧ keyCell cells g = cell := by
          simp only [List.mem_cons, exists_eq_or_imp, here, false_or]
        rw [if_congr same rfl rfl]
        split
        · rfl
        · rw [row?_append, if_neg here, Option.or_none]

/-- What was seen tells, for each key field, in which of some lines a cell came first. -/
def Seen.Tells (seen : Seen) (fields : List Field) (separator : Separator) (firstRow : Int)
    (earlier : List String) : Prop :=
  ∀ f ∈ keys fields, ∀ cell, seen.row? f.position cell =
    (firstWith? fields separator f cell earlier).map (fun i : Nat => firstRow + i)

theorem keyCell_take {fields : List Field} (numbered : Numbered fields) {f : Field}
    (key : f ∈ keys fields) (cells : List String) :
    keyCell (cells.take fields.length) f = keyCell cells f := by
  have within := numbered.within (List.mem_filter.mp key).1
  unfold keyCell
  rw [List.getD_eq_getElem?_getD, List.getD_eq_getElem?_getD, List.getElem?_take,
    if_pos (by omega)]

theorem firstWith?_append (fields : List Field) (separator : Separator) (f : Field) (cell : String)
    (earlier : List String) (line : String) :
    firstWith? fields separator f cell (earlier ++ [line]) =
      (firstWith? fields separator f cell earlier).or
        (if isComplete fields separator line ∧ lineCell separator line f = cell then
          some earlier.length
        else none) := by
  unfold firstWith?
  rw [List.findIdx?_append]
  congr 1
  by_cases here : isComplete fields separator line ∧ lineCell separator line f = cell
  · simp [List.findIdx?_cons, here]
  · rw [if_neg here, List.findIdx?_cons, if_neg (by simpa using here)]
    rfl

theorem Seen.Tells.incomplete {seen : Seen} {fields : List Field} {separator : Separator}
    {firstRow : Int} {earlier : List String} (tells : seen.Tells fields separator firstRow earlier)
    {line : String} (short : isComplete fields separator line = false) :
    seen.Tells fields separator firstRow (earlier ++ [line]) := by
  intro f key cell
  rw [firstWith?_append, if_neg (by simp [short]), Option.or_none]
  exact tells f key cell

theorem Seen.Tells.enter {seen : Seen} {fields : List Field} {separator : Separator}
    {firstRow : Int} {earlier : List String} (tells : seen.Tells fields separator firstRow earlier)
    (numbered : Numbered fields) {line : String} (complete : isComplete fields separator line = true) :
    (Source.enter seen (firstRow + earlier.length) (recordOf fields separator
      (firstRow + earlier.length) line).cells (keys fields)).Tells fields separator firstRow
        (earlier ++ [line]) := by
  intro f key cell
  rw [row?_enter, firstWith?_append, tells f key cell]
  have agree : (∃ g ∈ keys fields, g.position = f.position ∧
        keyCell ((cellsOf separator line).take fields.length) g = cell) ↔
      isComplete fields separator line ∧ lineCell separator line f = cell := by
    constructor
    · rintro ⟨g, other, same, rfl⟩
      refine ⟨complete, ?_⟩
      rw [keyCell_take numbered other]
      unfold lineCell keyCell
      rw [same]
    · rintro ⟨_, rfl⟩
      exact ⟨f, key, rfl, keyCell_take numbered key _⟩
  unfold recordOf
  rw [if_congr agree rfl rfl]
  cases firstWith? fields separator f cell earlier with
  | some i => rfl
  | none => split <;> rfl

theorem repeats_eq {seen : Seen} {fields : List Field} {separator : Separator} {firstRow : Int}
    {earlier : List String} (tells : seen.Tells fields separator firstRow earlier)
    (numbered : Numbered fields) {line : String} (complete : isComplete fields separator line = true) :
    repeats seen (firstRow + earlier.length)
        (recordOf fields separator (firstRow + earlier.length) line).cells (keys fields) =
      lineProblems fields separator firstRow earlier line := by
  unfold repeats lineProblems recordOf
  dsimp only
  rw [if_pos complete]
  apply List.filterMap_congr
  intro f key
  rw [keyCell_take numbered key, tells f key]
  unfold lineCell
  rw [Option.map_map]
  rfl

/-- An examination finds the records of the complete lines and what is wrong with each line. -/
theorem examine_eq {fields : List Field} (numbered : Numbered fields) (separator : Separator)
    (firstRow : Int) {seen : Seen} {earlier : List String}
    (tells : seen.Tells fields separator firstRow earlier) (lines : List String) :
    examine fields separator (firstRow + earlier.length) seen lines =
      (recordsFrom fields separator (firstRow + earlier.length) lines,
        problemsAfter fields separator firstRow earlier lines) := by
  induction lines generalizing seen earlier with
  | nil => rfl
  | cons line rest ih =>
      have next : firstRow + earlier.length + 1 = firstRow + (earlier ++ [line]).length := by
        simp [Int.add_assoc]
      unfold examine recordsFrom problemsAfter
      dsimp only
      cases complete : isComplete fields separator line with
      | false =>
          have short : (cellsOf separator line).length < fields.length := by
            simpa [isComplete] using complete
          rw [if_pos short, next, ih (tells.incomplete complete)]
          simp [lineProblems, complete]
      | true =>
          have long : ¬ (cellsOf separator line).length < fields.length := by
            simpa [isComplete] using complete
          have entered := ih (tells.enter numbered complete)
          have found := repeats_eq tells numbered complete
          unfold recordOf at entered found
          rw [if_neg long, next, entered, found]
          rfl

def problemsOf (fields : List Field) (separator : Separator) (firstRow : Int)
    (lines : List String) : List RowFault :=
  problemsAfter fields separator firstRow [] lines

theorem ingest_eq {fields : List Field} (numbered : Numbered fields) (separator : Separator)
    (firstRow : Int) (lines : List String) :
    ingest fields separator firstRow lines =
      match problemsOf fields separator firstRow lines with
      | [] => .ok (recordsFrom fields separator firstRow lines)
      | first :: rest => .error (.row first (first :: rest)) := by
  have tells : Seen.Tells [] fields separator firstRow [] := fun f _ cell => rfl
  have examined := examine_eq numbered separator firstRow tells lines
  rw [List.length_nil, Int.natCast_zero, Int.add_zero] at examined
  unfold ingest problemsOf
  rw [examined]
  cases problemsAfter fields separator firstRow [] lines <;> rfl

theorem firstWith?_eq_none {fields : List Field} {separator : Separator} {f : Field} {cell : String}
    {lines : List String} :
    firstWith? fields separator f cell lines = none ↔
      ∀ line ∈ lines, isComplete fields separator line = true → lineCell separator line f ≠ cell := by
  unfold firstWith?
  rw [List.findIdx?_eq_none_iff]
  constructor
  · intro absent line member complete same
    have other := absent line member
    simp [complete, same] at other
  · intro absent line member
    cases complete : isComplete fields separator line with
    | false => rfl
    | true => simpa using absent line member complete

theorem lineProblems_eq_nil {fields : List Field} {separator : Separator} {firstRow : Int}
    {earlier : List String} {line : String} :
    lineProblems fields separator firstRow earlier line = [] ↔
      isComplete fields separator line = true ∧ ∀ f ∈ keys fields,
        firstWith? fields separator f (lineCell separator line f) earlier = none := by
  unfold lineProblems
  dsimp only
  cases complete : isComplete fields separator line with
  | false => simp
  | true =>
      rw [if_pos rfl, List.filterMap_eq_nil_iff]
      constructor
      · intro none
        exact ⟨rfl, fun f key => Option.map_eq_none_iff.mp (none f key)⟩
      · rintro ⟨_, none⟩ f key
        rw [none f key]
        rfl

theorem problemsAfter_eq_nil {fields : List Field} {separator : Separator} {firstRow : Int}
    {earlier lines : List String} :
    problemsAfter fields separator firstRow earlier lines = [] ↔
      ∀ (i : Nat) line, lines[i]? = some line →
        lineProblems fields separator firstRow (earlier ++ lines.take i) line = [] := by
  induction lines generalizing earlier with
  | nil => simp [problemsAfter]
  | cons first rest ih =>
      unfold problemsAfter
      rw [List.append_eq_nil_iff, ih]
      constructor
      · rintro ⟨here, later⟩ i line found
        cases i with
        | zero =>
            cases found
            simpa using here
        | succ i => simpa using later i line found
      · intro each
        refine ⟨by simpa using each 0 first rfl, ?_⟩
        intro i line found
        simpa using each (i + 1) line found

theorem recordsFrom_of_complete {fields : List Field} {separator : Separator} {row : Int}
    {lines : List String} (complete : ∀ line ∈ lines, isComplete fields separator line = true) :
    recordsFrom fields separator row lines =
      lines.mapIdx fun i line => recordOf fields separator (row + i) line := by
  induction lines generalizing row with
  | nil => rfl
  | cons line rest ih =>
      have later : ∀ l ∈ rest, isComplete fields separator l = true :=
        fun l member => complete l (List.mem_cons_of_mem _ member)
      rw [recordsFrom, if_pos (complete line List.mem_cons_self), ih later, List.mapIdx_cons]
      simp only [Int.natCast_zero, Int.add_zero, Int.natCast_succ, Int.add_assoc, Int.add_comm 1]

/-- Something is wrong with lines exactly when one of them is incomplete or repeats a key cell. -/
theorem problemsOf_eq_nil {fields : List Field} {separator : Separator} {firstRow : Int}
    {lines : List String} :
    problemsOf fields separator firstRow lines = [] ↔ ¬ Defective fields separator lines := by
  unfold problemsOf
  rw [problemsAfter_eq_nil]
  constructor
  · rintro clean ⟨i, line, found, wrong⟩
    obtain ⟨complete, fresh⟩ := lineProblems_eq_nil.mp (clean i line found)
    rcases wrong with short | ⟨f, key, j, earlier, before, there, whole, same⟩
    · rw [complete] at short
      cases short
    · have member : earlier ∈ [] ++ lines.take i := by
        apply List.mem_of_getElem? (i := j)
        rw [List.nil_append, List.getElem?_take, if_pos before, there]
      exact firstWith?_eq_none.mp (fresh f key) earlier member whole same
  · intro sound i line found
    refine lineProblems_eq_nil.mpr ⟨?_, ?_⟩
    · cases complete : isComplete fields separator line with
      | true => rfl
      | false => exact absurd ⟨i, line, found, .inl complete⟩ sound
    · intro f key
      refine firstWith?_eq_none.mpr ?_
      intro earlier member whole same
      obtain ⟨j, there⟩ := List.getElem?_of_mem member
      rw [List.nil_append, List.getElem?_take] at there
      split at there
      · rename_i before
        exact sound ⟨i, line, found, .inr ⟨f, key, j, earlier, before, there, whole, same⟩⟩
      · cases there

theorem problemsOf_eq_nil_iff {fields : List Field} {separator : Separator} {firstRow : Int}
    {lines : List String} :
    problemsOf fields separator firstRow lines = [] ↔
      (∀ line ∈ lines, isComplete fields separator line = true) ∧
        lines.Pairwise fun a b => ∀ f ∈ keys fields, lineCell separator a f ≠ lineCell separator b f := by
  rw [problemsOf_eq_nil, List.pairwise_iff_getElem]
  constructor
  · intro sound
    have complete : ∀ line ∈ lines, isComplete fields separator line = true := by
      intro line member
      obtain ⟨i, found⟩ := List.getElem?_of_mem member
      by_contra short
      exact sound ⟨i, line, found, .inl (by simpa using short)⟩
    refine ⟨complete, ?_⟩
    intro i j within below before f key same
    exact sound ⟨j, _, List.getElem?_eq_getElem below, .inr ⟨f, key, i, _, before,
      List.getElem?_eq_getElem within, complete _ (List.getElem_mem within), same⟩⟩
  · rintro ⟨complete, apart⟩ ⟨j, line, found, wrong⟩
    rcases wrong with short | ⟨f, key, i, earlier, before, there, _, same⟩
    · rw [complete line (List.mem_of_getElem? found)] at short
      cases short
    · obtain ⟨below, rfl⟩ := List.getElem?_eq_some_iff.mp found
      obtain ⟨within, rfl⟩ := List.getElem?_eq_some_iff.mp there
      exact apart i j within below before f key same

theorem problemsOf_perm {fields : List Field} {separator : Separator} {firstRow : Int}
    {lines others : List String} (perm : lines.Perm others) :
    problemsOf fields separator firstRow lines = [] ↔
      problemsOf fields separator firstRow others = [] := by
  rw [problemsOf_eq_nil_iff, problemsOf_eq_nil_iff]
  have complete : (∀ line ∈ lines, isComplete fields separator line = true) ↔
      ∀ line ∈ others, isComplete fields separator line = true := by
    simp only [perm.mem_iff]
  rw [complete, perm.pairwise_iff fun apart f key same => apart f key same.symm]

theorem isComplete_of_problemsOf_nil {fields : List Field} {separator : Separator} {firstRow : Int}
    {lines : List String} (clean : problemsOf fields separator firstRow lines = []) :
    ∀ line ∈ lines, isComplete fields separator line = true :=
  (problemsOf_eq_nil_iff.mp clean).1

end Source

end RowLoader
