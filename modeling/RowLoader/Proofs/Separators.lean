import RowLoader.Proofs.Layout
import RowLoader.Proofs.Runs

/-!
What the choice of a separator amounts to. A header of several tokens and rows of as many cells are
imported alike whether they are written with semicolons or with commas; written with tabs they are
imported as they are without the rows that hold nothing but blanks, since such a row is a blank line then.
-/

namespace RowLoader

open RowLoader.Text RowLoader.Header RowLoader.Source RowLoader.Dictionary

namespace Text

theorem dropMark_append {s : List Char} (some : s ≠ []) (t : List Char) :
    dropMark (s ++ t) = dropMark s ++ t := by
  cases s with
  | nil => exact absurd rfl some
  | cons c r =>
      rw [List.cons_append, dropMark, dropMark]
      split <;> rfl

theorem mem_of_mem_dropMark {s : List Char} {c : Char} (member : c ∈ dropMark s) : c ∈ s := by
  cases s with
  | nil => cases member
  | cons d r =>
      rw [dropMark] at member
      split at member
      · exact List.mem_cons_of_mem _ member
      · exact member

end Text

namespace Source

/-- A cell that can be written with every separator. -/
def Plain (cell : String) : Prop :=
  ∀ c ∈ cell.toList, c ≠ ';' ∧ c ≠ '\t' ∧ c ≠ ',' ∧ isLineBoundary c = false

instance (cell : String) : Decidable (Plain cell) :=
  List.decidableBAll (fun c => c ≠ ';' ∧ c ≠ '\t' ∧ c ≠ ',' ∧ isLineBoundary c = false) cell.toList

/-- The separators that a header can show. -/
def IsShown (p : Separator) : Prop :=
  p = .semicolon ∨ p = .tab ∨ p = .comma

section

variable {p : Separator} (shown : IsShown p)
include shown

theorem IsShown.single : p.tail = [] := by
  rcases shown with rfl | rfl | rfl <;> rfl

theorem IsShown.inner : ∀ c ∈ p.chars, isLineBoundary c = false := by
  rcases shown with rfl | rfl | rfl <;> exact List.forall_mem_singleton.mpr (by decide)

theorem IsShown.notMem {cell : String} (plain : Plain cell) : p.head ∉ cell.toList := by
  intro member
  obtain ⟨semicolon, tab, comma, _⟩ := plain _ member
  rcases shown with rfl | rfl | rfl
  · exact semicolon rfl
  · exact tab rfl
  · exact comma rfl

theorem IsShown.cellsOf_joined {cells : List String} (some : cells ≠ [])
    (plain : ∀ cell ∈ cells, Plain cell) : cellsOf p (joined p cells) = cells.map trim :=
  Source.cellsOf_joined shown.single some fun cell member => shown.notMem (plain cell member)

end

theorem IsShown.notMem_joined {p : Separator} (shown : IsShown p) {cells : List String}
    (plain : ∀ cell ∈ cells, Plain cell) {c : Char} (cuts : c = ';' ∨ c = '\t' ∨ c = ',')
    (other : c ≠ p.head) : c ∉ (joined p cells).toList := by
  intro member
  rcases mem_joined member with between | ⟨cell, inside, there⟩
  · unfold Separator.chars at between
    rw [shown.single] at between
    exact other (List.mem_singleton.mp between)
  · obtain ⟨semicolon, tab, comma, _⟩ := plain cell inside c there
    rcases cuts with rfl | rfl | rfl
    · exact semicolon rfl
    · exact tab rfl
    · exact comma rfl

/-- A line of several cells shows what they are separated by. -/
theorem IsShown.separatorOf_joined {p : Separator} (shown : IsShown p) {cells : List String}
    (several : 2 ≤ cells.length) (plain : ∀ cell ∈ cells, Plain cell) :
    separatorOf (joined p cells) = p := by
  have has : (joined p cells).toList.contains p.head = true :=
    List.contains_iff_mem.mpr (mem_joined_several several)
  have lacks : ∀ c, c = ';' ∨ c = '\t' ∨ c = ',' → c ≠ p.head →
      ¬ (joined p cells).toList.contains c = true := by
    intro c cuts other found
    exact shown.notMem_joined plain cuts other (List.contains_iff_mem.mp found)
  unfold separatorOf
  rcases shown with rfl | rfl | rfl
  · exact if_pos has
  · rw [if_neg (lacks ';' (by simp) (by decide))]
    exact if_pos has
  · rw [if_neg (lacks ';' (by simp) (by decide)), if_neg (lacks '\t' (by simp) (by decide))]

theorem allBlank_joined_tab (cells : List String) :
    allBlank (joined .tab cells) = cells.all allBlank := by
  unfold joined allBlank
  rw [String.toList_ofList]
  induction cells with
  | nil => rfl
  | cons s rest ih =>
      cases rest with
      | nil => simp [join_singleton]
      | cons t others =>
          have blank : Separator.tab.chars.all isBlank = true := by decide
          rw [List.map_cons] at ih
          rw [List.map_cons, List.map_cons, join_cons_cons, List.all_append, List.all_append, ih,
            blank, Bool.and_true]
          rfl

theorem allBlank_joined_several {p : Separator} (visible : isBlank p.head = false)
    {cells : List String} (several : 2 ≤ cells.length) : allBlank (joined p cells) = false := by
  unfold allBlank
  rw [List.all_eq_false]
  exact ⟨p.head, mem_joined_several several, by simp [visible]⟩

theorem examine_congr {fields : List Field} {p q : Separator} {lines others : List String}
    (alike : List.Forall₂ (fun line other => cellsOf p line = cellsOf q other ∧
      fields.length ≤ (cellsOf p line).length) lines others) (row : Int) (seen : Seen) :
    examine fields p row seen lines = examine fields q row seen others := by
  induction alike generalizing row seen with
  | nil => rfl
  | cons here _ ih =>
      obtain ⟨same, long⟩ := here
      unfold examine
      dsimp only
      rw [← same, if_neg (by omega), if_neg (by omega), ih]

end Source

namespace Run

/-- A file is written of some lines, each with an end of its own, but the last one perhaps without; a byte
order mark may stand in front of them. -/
def File.Writes (file : File) (mark : Bool) (lines : List String) : Prop :=
  ∃ ls last, file.content = .bytes (Utf8.encode ((if mark then [byteOrderMark] else []) ++
      layOut ls last)) ∧
    (ls.map Prod.fst ++ [last] = lines.map String.toList ∨
      ls.map Prod.fst ++ [last] = lines.map String.toList ++ [[]])

def File.ofLines (path : String) (mark : Bool) (e : LineEnd) (lines : List String) : File :=
  ⟨path, .bytes (Utf8.encode ((if mark then [byteOrderMark] else []) ++
    layOut (lines.map fun l => (l.toList, e)) []))⟩

theorem File.writes_ofLines (path : String) (mark : Bool) (e : LineEnd) (lines : List String) :
    (File.ofLines path mark e lines).Writes mark lines := by
  refine ⟨_, _, rfl, .inr ?_⟩
  rw [List.map_map]
  rfl

/-- The first line of a file as it is read. Without a byte order mark of the file, one at the beginning of
the line is taken for it. -/
def seenLine (mark : Bool) (line : String) : String :=
  if mark then line else String.ofList (Text.dropMark line.toList)

theorem mem_of_mem_seenLine {mark : Bool} {line : String} {c : Char}
    (member : c ∈ (seenLine mark line).toList) : c ∈ line.toList := by
  unfold seenLine at member
  split at member
  · exact member
  · exact mem_of_mem_dropMark (by simpa using member)

theorem dropMark_laid (mark : Bool) {ls : List (List Char × LineEnd)} {last : List Char}
    {head : String} {rest : List (List Char)} (some : head.toList ≠ [])
    (laid : ls.map Prod.fst ++ [last] = head.toList :: rest) :
    ∃ ls' last', Text.dropMark ((if mark then [byteOrderMark] else []) ++ layOut ls last) =
        layOut ls' last' ∧
      ls'.map Prod.fst ++ [last'] = (seenLine mark head).toList :: rest := by
  cases mark with
  | true => exact ⟨ls, last, rfl, laid⟩
  | false =>
      have seen : (seenLine false head).toList = Text.dropMark head.toList := by simp [seenLine]
      rw [seen]
      cases ls with
      | nil =>
          obtain ⟨rfl, rfl⟩ := List.cons.inj laid
          exact ⟨[], Text.dropMark head.toList, rfl, rfl⟩
      | cons line others =>
          obtain ⟨first, later⟩ := List.cons.inj laid
          refine ⟨(Text.dropMark head.toList, line.2) :: others, last, ?_, congrArg _ later⟩
          have cut : ∀ l : List Char, layOut ((l, line.2) :: others) last =
              l ++ (line.2.chars ++ layOut others last) := by
            intro l
            simp [layOut]
          have whole : line = (head.toList, line.2) := Prod.ext first rfl
          rw [whole, cut, cut]
          exact dropMark_append some _

/-- From a file its lines are read, but for the blank ones. -/
theorem File.Writes.lines_eq {file : File} {mark : Bool} {head : String} {data : List String}
    (written : file.Writes mark (head :: data))
    (free : ∀ l ∈ head :: data, ∀ c ∈ l.toList, isLineBoundary c = false)
    (visible : allBlank (seenLine mark head) = false) :
    file.lines = .ok (seenLine mark head :: data.filter fun l => !allBlank l) := by
  obtain ⟨ls, last, content, laid⟩ := written
  have some : head.toList ≠ [] := by
    intro none
    refine absurd (List.all_eq_true.mpr fun c member => ?_) (Bool.eq_false_iff.mp visible)
    have inside := mem_of_mem_seenLine member
    rw [none] at inside
    cases inside
  obtain ⟨rest, same, shape⟩ : ∃ rest, ls.map Prod.fst ++ [last] = head.toList :: rest ∧
      (rest = data.map String.toList ∨ rest = data.map String.toList ++ [[]]) := by
    rcases laid with laid | laid
    · exact ⟨_, laid, .inl rfl⟩
    · exact ⟨_, laid, .inr rfl⟩
  obtain ⟨ls', last', seen, contents⟩ := dropMark_laid mark some same
  have kept : filled (layOut ls' last') =
      (seenLine mark head :: data.filter fun l => !allBlank l).map String.toList := by
    refine filled_of_laid ?_ ?_
    · intro l member c there
      rcases List.mem_cons.mp member with rfl | later
      · exact free head List.mem_cons_self c (mem_of_mem_seenLine there)
      · exact free l (List.mem_cons_of_mem _ (List.mem_filter.mp later).1) c there
    · unfold allBlank at visible ⊢
      rw [contents]
      rcases shape with rfl | rfl <;>
        simp [List.filter_append, List.filter_map, visible, Function.comp_def]
  have read : filledLines ((if mark then [byteOrderMark] else []) ++ layOut ls last) =
      seenLine mark head :: data.filter fun l => !allBlank l := by
    rw [filledLines_eq, seen, kept]
    simp [Function.comp_def]
  unfold File.lines
  rw [content, if_neg (by simp), readLines_encode _ (by rw [read]; exact List.cons_ne_nil _ _), read]
  rfl

/-- What separates the cells of a header and its rows makes no difference to a run over the lines. -/
theorem importLines_joined {template : Template} (missing : Template.tokens template.header = none)
    {p q : Separator} (shown : IsShown p) (other : IsShown q) {tokens : List String}
    {rows : List (List String)} (several : 2 ≤ tokens.length)
    (square : ∀ row ∈ rows, row.length = tokens.length)
    (plain : ∀ cells ∈ tokens :: rows, ∀ cell ∈ cells, Plain cell) (context : Context)
    (mode : Action) :
    importLines template context mode ((tokens :: rows).map (joined p)) =
      importLines template context mode ((tokens :: rows).map (joined q)) := by
  have filled : ∀ cells ∈ tokens :: rows, cells ≠ [] := by
    rintro _ member rfl
    rcases List.mem_cons.mp member with rfl | row
    · exact absurd several (by decide)
    · have long := square [] row
      rw [← long] at several
      exact absurd several (by decide)
  have planned : ∀ {r : Separator}, IsShown r →
      plan template.header ((tokens :: rows).map (joined r)) =
        .ok ⟨Header.read (tokens.map .some), 2, rows.map (joined r), r⟩ := by
    intro r shown
    have told := shown.separatorOf_joined several (plain tokens List.mem_cons_self)
    have cut := shown.cellsOf_joined (filled tokens List.mem_cons_self)
      (plain tokens List.mem_cons_self)
    unfold plan
    rw [List.map_cons]
    dsimp only
    rw [missing, told, cut, read_trim]
  have same : ingest (Header.read (tokens.map .some)) p 2 (rows.map (joined p)) =
      ingest (Header.read (tokens.map .some)) q 2 (rows.map (joined q)) := by
    unfold ingest
    rw [examine_congr]
    rw [List.forall₂_map_left_iff, List.forall₂_map_right_iff, List.forall₂_same]
    intro row member
    have inside := List.mem_cons_of_mem tokens member
    rw [shown.cellsOf_joined (filled row inside) (plain row inside),
      other.cellsOf_joined (filled row inside) (plain row inside), length_read, List.length_map]
    exact ⟨rfl, (square row member).ge⟩
  have begin : ∀ (a : Plan) (f : Plan → Work Report), Work.ofFault (.ok a) >>= f = f a :=
    fun _ _ => rfl
  unfold importLines
  rw [planned shown, planned other]
  simp only [begin, same]

theorem seenLine_joined {mark : Bool} (p : Separator) {first : String} (some : first.toList ≠ [])
    (rest : List String) :
    seenLine mark (joined p (first :: rest)) = joined p (seenLine mark first :: rest) := by
  obtain ⟨tail, cut⟩ : ∃ tail, ∀ s : String, (joined p (s :: rest)).toList = s.toList ++ tail := by
    cases rest with
    | nil => exact ⟨[], fun s => by simp [joined, join_singleton]⟩
    | cons next others =>
        exact ⟨p.chars ++ join p ((next :: others).map String.toList), fun s => by
          simp [joined, join_cons_cons]⟩
  cases mark with
  | true => rfl
  | false =>
      refine String.toList_injective ?_
      rw [cut]
      unfold seenLine
      simp [cut, dropMark_append some]

def seenTokens (mark : Bool) : List String → List String
  | [] => []
  | first :: rest => seenLine mark first :: rest

theorem length_seenTokens (mark : Bool) (tokens : List String) :
    (seenTokens mark tokens).length = tokens.length := by
  cases tokens <;> rfl

theorem plain_seenTokens {mark : Bool} {tokens : List String}
    (plain : ∀ token ∈ tokens, Plain token) : ∀ token ∈ seenTokens mark tokens, Plain token := by
  cases tokens with
  | nil => exact plain
  | cons first rest =>
      intro token member
      rcases List.mem_cons.mp member with rfl | later
      · exact fun c there => plain first List.mem_cons_self c (mem_of_mem_seenLine there)
      · exact plain token (List.mem_cons_of_mem _ later)

section

variable {tokens : List String} (several : 2 ≤ tokens.length)
  (named : ∀ token ∈ tokens, allBlank token = false)
include several named

theorem allBlank_joined_seenTokens {p : Separator} (shown : IsShown p) (mark : Bool) :
    allBlank (joined p (seenTokens mark tokens)) = false := by
  have long : 2 ≤ (seenTokens mark tokens).length := by rwa [length_seenTokens]
  rcases shown with rfl | rfl | rfl
  · exact allBlank_joined_several (by decide) long
  · match tokens, several with
    | first :: second :: rest, _ =>
        rw [allBlank_joined_tab, List.all_eq_false]
        exact ⟨second, by simp [seenTokens], by simp [named second]⟩
  · exact allBlank_joined_several (by decide) long

theorem seenLine_tokens (mark : Bool) (p : Separator) :
    seenLine mark (joined p tokens) = joined p (seenTokens mark tokens) := by
  match tokens, several with
  | first :: second :: rest, _ =>
      refine seenLine_joined p ?_ (second :: rest)
      intro none
      have blank := named first List.mem_cons_self
      unfold allBlank at blank
      rw [none] at blank
      cases blank

theorem File.Writes.lines_joined {file : File} {mark : Bool} {p : Separator} (shown : IsShown p)
    {rows : List (List String)} (plain : ∀ cells ∈ tokens :: rows, ∀ cell ∈ cells, Plain cell)
    (written : file.Writes mark ((tokens :: rows).map (joined p))) :
    file.lines = .ok ((seenTokens mark tokens :: rows.filter fun row =>
      !allBlank (joined p row)).map (joined p)) := by
  have free : ∀ l ∈ joined p tokens :: rows.map (joined p), ∀ c ∈ l.toList,
      isLineBoundary c = false := by
    intro l member
    obtain ⟨cells, inside, rfl⟩ : ∃ cells ∈ tokens :: rows, joined p cells = l :=
      List.mem_map.mp member
    exact joined_free shown.inner fun cell here c there =>
      (plain cells inside cell here c there).2.2.2
  have seen := seenLine_tokens several named mark p
  have filled := allBlank_joined_seenTokens several named shown mark
  rw [written.lines_eq free (seen ▸ filled), seen, List.filter_map]
  rfl

/-- Two files of one header are the same import where the rows that are not written as blank lines are
the same. -/
theorem runFile_joined {w : Workspace} {templateId : Option Int}
    (unstored : ∀ template, Dictionary.template? w.store templateId = .ok (some template) →
      Template.tokens template.header = none)
    {p q : Separator} (shown : IsShown p) (other : IsShown q) {rows others : List (List String)}
    (square : ∀ row ∈ rows, row.length = tokens.length)
    (plain : ∀ cells ∈ tokens :: rows, ∀ cell ∈ cells, Plain cell)
    (plain' : ∀ cells ∈ tokens :: others, ∀ cell ∈ cells, Plain cell)
    (same : (rows.filter fun row => !allBlank (joined p row)) =
      others.filter fun row => !allBlank (joined q row)) {mark : Bool} {file file' : File}
    (written : file.Writes mark ((tokens :: rows).map (joined p)))
    (written' : file'.Writes mark ((tokens :: others).map (joined q))) (mode : Option String)
    (context : Context) :
    (runFile templateId file mode context).runOn w =
      (runFile templateId file' mode context).runOn w := by
  unfold runFile
  rw [Work.runOn_bind, Work.runOn_bind]
  rcases read : (Work.template? templateId).runOn w with ⟨failure | none | template, mid⟩
  · rfl
  · rfl
  obtain ⟨_, stored, rfl⟩ := Work.template?_ok read
  have imported : ∀ action, importLines template context action
      ((seenTokens mark tokens :: others.filter fun row => !allBlank (joined q row)).map
        (joined p)) =
      importLines template context action
        ((seenTokens mark tokens :: others.filter fun row => !allBlank (joined q row)).map
          (joined q)) := by
    intro action
    refine importLines_joined (unstored template stored) shown other
      (by rwa [length_seenTokens]) ?_ ?_ context action
    · intro row member
      rw [← same] at member
      rw [square row (List.mem_filter.mp member).1, length_seenTokens]
    · intro cells member
      rcases List.mem_cons.mp member with rfl | row
      · exact plain_seenTokens (plain tokens List.mem_cons_self)
      · exact plain' cells (List.mem_cons_of_mem _ (List.mem_filter.mp row).1)
  have begin : ∀ (lines : List String) (f : List String → Work Report),
      Work.ofExcept (.ok lines) >>= f = f lines := fun _ _ => rfl
  dsimp only
  rw [written.lines_joined several named shown plain,
    written'.lines_joined several named other plain', same]
  simp only [begin, imported]

end

/-- Files that write the same header and rows with semicolons and with commas are the same import: the
same answer, and the same workspace behind it. One that writes them with tabs is the import of the header
and the rows that have a cell that is not blank. -/
theorem import_by_separator {w : Workspace} {templateId : Option Int}
    (unstored : ∀ template, Dictionary.template? w.store templateId = .ok (some template) →
      Template.tokens template.header = none)
    {tokens : List String} {rows : List (List String)} (several : 2 ≤ tokens.length)
    (named : ∀ token ∈ tokens, allBlank token = false)
    (square : ∀ row ∈ rows, row.length = tokens.length)
    (plain : ∀ cells ∈ tokens :: rows, ∀ cell ∈ cells, Plain cell) {mark : Bool}
    {semicolons commas tabs fewer : File}
    (semicolon : semicolons.Writes mark ((tokens :: rows).map (joined .semicolon)))
    (comma : commas.Writes mark ((tokens :: rows).map (joined .comma)))
    (tab : tabs.Writes mark ((tokens :: rows).map (joined .tab)))
    (filled : fewer.Writes mark
      ((tokens :: rows.filter fun row => !row.all allBlank).map (joined .semicolon)))
    (mode : Option String) (context : Context) :
    let imported := fun file => (runFile templateId file mode context).runOn w
    imported commas = imported semicolons ∧ imported tabs = imported fewer := by
  intro imported
  have inside : (rows.filter fun row => !row.all allBlank) ⊆ rows :=
    fun _ member => (List.mem_filter.mp member).1
  have plain' : ∀ cells ∈ tokens :: rows.filter fun row => !row.all allBlank,
      ∀ cell ∈ cells, Plain cell := by
    intro cells member
    rcases List.mem_cons.mp member with rfl | row
    · exact plain cells List.mem_cons_self
    · exact plain cells (List.mem_cons_of_mem _ (inside row))
  -- a visible separator keeps a row of several cells from being a blank line
  have kept : ∀ {p : Separator}, isBlank p.head = false → ∀ {others}, others ⊆ rows →
      (others.filter fun row => !allBlank (joined p row)) = others := by
    intro p visible others some
    rw [List.filter_eq_self]
    intro row member
    rw [allBlank_joined_several visible (by rw [square row (some member)]; exact several)]
    rfl
  constructor
  · refine runFile_joined several named unstored (.inr (.inr rfl)) (.inl rfl) square plain plain ?_
      comma semicolon mode context
    rw [kept (by decide) (List.Subset.refl rows), kept (by decide) (List.Subset.refl rows)]
  · refine runFile_joined several named unstored (.inr (.inl rfl)) (.inl rfl) square plain plain' ?_
      tab filled mode context
    rw [kept (by decide) inside]
    simp only [allBlank_joined_tab]

def partCells : List (List String) :=
  [["C", "5"], ["", " "], ["", "7"]]

def partsBy (p : Separator) (rows : List (List String)) : File :=
  File.ofLines "parts.txt" false .returnFeed ((["Value", "Amount"] :: rows).map (joined p))

/-- Three rows with semicolons and with commas, two with tabs. -/
theorem import_by_separator_parts :
    let imported := fun file => (runFile (some 1) file none
      (.standard (Calendar.Date.midnight ⟨2026, 1, 2⟩))).runOn partWorkspace
    imported (partsBy .comma partCells) = imported (partsBy .semicolon partCells) ∧
      imported (partsBy .tab partCells) =
        imported (partsBy .semicolon [["C", "5"], ["", "7"]]) := by
  have unstored : ∀ template,
      Dictionary.template? partWorkspace.store (some 1) = .ok (some template) →
        Template.tokens template.header = none := by
    intro template stored
    have headless : Dictionary.template? partWorkspace.store (some 1) = .ok (some partTemplate) := by
      decide +kernel
    cases headless.symm.trans stored
    rfl
  have several : 2 ≤ ["Value", "Amount"].length := by decide
  have named : ∀ token ∈ ["Value", "Amount"], allBlank token = false := by decide +kernel
  have square : ∀ row ∈ partCells, row.length = ["Value", "Amount"].length := by decide
  have plain : ∀ cells ∈ ["Value", "Amount"] :: partCells, ∀ cell ∈ cells, Plain cell := by
    decide +kernel
  exact import_by_separator unstored several named square plain (File.writes_ofLines _ _ _ _)
    (File.writes_ofLines _ _ _ _) (File.writes_ofLines _ _ _ _) (File.writes_ofLines _ _ _ _) _ _

/-- A row of empty cells is a row behind a semicolon, and none behind a tab. -/
theorem blank_row_by_separator :
    let imported := fun p => ((runFile (some 1) (partsBy p [["", ""]]) none
      (.standard (Calendar.Date.midnight ⟨2026, 1, 2⟩))).runOn partWorkspace).1
    (imported .semicolon).map Report.totalRows = .ok 1 ∧
      (imported .tab).map Report.totalRows = .ok 0 := by
  decide +kernel

end Run

end RowLoader
