import RowLoader.Proofs.Encoding
import RowLoader.Proofs.Examination
import RowLoader.Proofs.HeaderPlacement

/-!
How lines are laid out in a file. Lines may be ended in three ways, blank lines may stand anywhere among
them and a byte order mark in front of them; from the bytes of such a file its lines are read again, and
from the lines the tokens of the header and the cells of every row.
-/

namespace RowLoader

namespace Text

inductive LineEnd where
  | feed
  | returnFeed
  | return
deriving Repr, DecidableEq

def LineEnd.chars : LineEnd → List Char
  | .feed => ['\n']
  | .returnFeed => ['\r', '\n']
  | .return => ['\r']

/-- A text of lines with their ends, and of a last line that has none. -/
def layOut (lines : List (List Char × LineEnd)) (last : List Char) : List Char :=
  lines.flatMap (fun l => l.1 ++ l.2.chars) ++ last

/-- The lines of a text that hold more than blanks. -/
def filled (s : List Char) : List (List Char) :=
  (linesOf s).filter fun l => !l.all isBlank

theorem filledLines_eq (s : List Char) :
    filledLines s = (filled (dropMark s)).map String.ofList := rfl

theorem linesOf_cons {c : Char} (inner : isLineBoundary c = false) (s : List Char) :
    linesOf (c :: s) = consLine c (linesOf s) := by
  cases s with
  | nil => simp [linesOf, inner, consLine]
  | cons d r =>
      have apart : ¬ (c = '\r' ∧ d = '\n') := by
        rintro ⟨rfl, _⟩
        revert inner
        decide
      rw [linesOf, if_neg apart, if_neg (by simp [inner])]

theorem linesOf_boundary {c : Char} {s : List Char} (boundary : isLineBoundary c = true)
    (apart : ¬ (c = '\r' ∧ s.head? = some '\n')) : linesOf (c :: s) = [] :: linesOf s := by
  cases s with
  | nil => simp [linesOf, boundary]
  | cons d r => rw [linesOf, if_neg (by simpa using apart), if_pos boundary]

/-- A carriage return adds nothing to the line feed behind it. -/
theorem linesOf_return_feed {c : Char} {s : List Char} (both : c = '\r' ∧ s.head? = some '\n') :
    linesOf (c :: s) = linesOf s := by
  obtain ⟨rfl, first⟩ := both
  obtain ⟨r, rfl⟩ := List.head?_eq_some_iff.mp first
  rw [linesOf, if_pos ⟨rfl, rfl⟩, linesOf_boundary (by decide) (by simp)]

theorem linesOf_ne_nil {s : List Char} (some : s ≠ []) : linesOf s ≠ [] := by
  induction s with
  | nil => exact absurd rfl some
  | cons c rest ih =>
      cases boundary : isLineBoundary c with
      | false =>
          rw [linesOf_cons boundary]
          cases linesOf rest <;> exact List.cons_ne_nil _ _
      | true =>
          by_cases both : c = '\r' ∧ rest.head? = .some '\n'
          · rw [linesOf_return_feed both]
            refine ih ?_
            rintro rfl
            cases both.2
          · rw [linesOf_boundary boundary both]
            exact List.cons_ne_nil _ _

theorem mem_of_mem_linesOf {s l : List Char} {x : Char} (member : l ∈ linesOf s) (inside : x ∈ l) :
    x ∈ s := by
  induction s generalizing l with
  | nil => cases member
  | cons c rest ih =>
      cases boundary : isLineBoundary c with
      | false =>
          rw [linesOf_cons boundary] at member
          cases lines : linesOf rest with
          | nil =>
              rw [lines] at member
              cases List.mem_singleton.mp member
              exact List.mem_cons.mpr (.inl (List.mem_singleton.mp inside))
          | cons first others =>
              rw [lines] at member ih
              rcases List.mem_cons.mp member with rfl | later
              · rcases List.mem_cons.mp inside with rfl | behind
                · exact List.mem_cons_self
                · exact List.mem_cons_of_mem _ (ih List.mem_cons_self behind)
              · exact List.mem_cons_of_mem _ (ih (List.mem_cons_of_mem _ later) inside)
      | true =>
          by_cases both : c = '\r' ∧ rest.head? = some '\n'
          · rw [linesOf_return_feed both] at member
            exact List.mem_cons_of_mem _ (ih member inside)
          · rw [linesOf_boundary boundary both] at member
            rcases List.mem_cons.mp member with rfl | later
            · cases inside
            · exact List.mem_cons_of_mem _ (ih later inside)

theorem linesOf_of_free {l : List Char} (free : ∀ c ∈ l, isLineBoundary c = false) (some : l ≠ []) :
    linesOf l = [l] := by
  induction l with
  | nil => exact absurd rfl some
  | cons c rest ih =>
      rw [linesOf_cons (free c List.mem_cons_self)]
      cases rest with
      | nil => rfl
      | cons d r =>
          rw [ih (fun x member => free x (List.mem_cons_of_mem _ member)) (List.cons_ne_nil d r)]
          rfl

theorem linesOf_ended {l : List Char} (free : ∀ c ∈ l, isLineBoundary c = false) (e : LineEnd) :
    linesOf (l ++ e.chars) = [l] := by
  induction l with
  | nil => cases e <;> decide
  | cons c rest ih =>
      rw [List.cons_append, linesOf_cons (free c List.mem_cons_self),
        ih fun x member => free x (List.mem_cons_of_mem _ member)]
      rfl

theorem consLine_append {c : Char} {l : List (List Char)} (some : l ≠ []) (m : List (List Char)) :
    consLine c (l ++ m) = consLine c l ++ m := by
  cases l with
  | nil => exact absurd rfl some
  | cons => rfl

/-- Behind a boundary begins a new line, but for one that is empty because it is between a carriage
return and a line feed. -/
theorem linesOf_append {a : List Char} {e : Char} (ended : a.getLast? = some e)
    (boundary : isLineBoundary e = true) (s : List Char) :
    ∃ t, linesOf (a ++ s) = linesOf a ++ t ∧ (linesOf s = t ∨ linesOf s = [] :: t) := by
  induction a with
  | nil => cases ended
  | cons c rest ih =>
      cases rest with
      | nil =>
          cases ended
          have alone : linesOf [c] = [[]] := linesOf_boundary boundary (by simp)
          rw [alone, List.singleton_append]
          by_cases both : c = '\r' ∧ s.head? = some '\n'
          · obtain ⟨r, rfl⟩ := List.head?_eq_some_iff.mp both.2
            have next : linesOf ('\n' :: r) = [] :: linesOf r :=
              linesOf_boundary (by decide) (by simp)
            exact ⟨linesOf r, (linesOf_return_feed both).trans next, .inr next⟩
          · exact ⟨linesOf s, linesOf_boundary boundary both, .inl rfl⟩
      | cons d r =>
          obtain ⟨t, lines, behind⟩ := ih (by simpa using ended)
          refine ⟨t, ?_, behind⟩
          rw [List.cons_append]
          cases first : isLineBoundary c with
          | false =>
              rw [linesOf_cons first, linesOf_cons first, lines,
                consLine_append (linesOf_ne_nil (List.cons_ne_nil d r))]
          | true =>
              have head : (d :: r ++ s).head? = (d :: r).head? := rfl
              by_cases both : c = '\r' ∧ (d :: r).head? = some '\n'
              · rw [linesOf_return_feed both, linesOf_return_feed (head ▸ both), lines]
              · rw [linesOf_boundary first both, linesOf_boundary first (head ▸ both), lines,
                  List.cons_append]

theorem filled_of_blank {s : List Char} (blank : s.all isBlank = true) : filled s = [] := by
  unfold filled
  rw [List.filter_eq_nil_iff]
  intro l member
  have : l.all isBlank = true :=
    List.all_eq_true.mpr fun c inside => List.all_eq_true.mp blank c (mem_of_mem_linesOf member inside)
  simp [this]

theorem filled_append {a : List Char} {e : Char} (ended : a.getLast? = some e)
    (boundary : isLineBoundary e = true) (s : List Char) : filled (a ++ s) = filled a ++ filled s := by
  obtain ⟨t, lines, behind⟩ := linesOf_append ended boundary s
  have same : filled s = t.filter fun l => !l.all isBlank := by
    unfold filled
    rcases behind with behind | behind <;> simp [behind]
  rw [same]
  unfold filled
  rw [lines, List.filter_append]

theorem LineEnd.getLast?_append (e : LineEnd) (l : List Char) :
    ∃ c, (l ++ e.chars).getLast? = some c ∧ isLineBoundary c = true := by
  cases e <;> simp [LineEnd.chars, isLineBoundary]

theorem LineEnd.all_isBlank (e : LineEnd) : e.chars.all isBlank = true := by
  cases e <;> decide

theorem filled_ended {l : List Char}
    (plain : l.all isBlank = true ∨ ∀ c ∈ l, isLineBoundary c = false) (e : LineEnd) :
    filled (l ++ e.chars) = [l].filter fun l => !l.all isBlank := by
  rcases plain with blank | free
  · rw [filled_of_blank (by rw [List.all_append, blank, e.all_isBlank]; rfl)]
    simp [blank]
  · rw [filled, linesOf_ended free]

theorem filled_of_plain {l : List Char}
    (plain : l.all isBlank = true ∨ ∀ c ∈ l, isLineBoundary c = false) :
    filled l = [l].filter fun l => !l.all isBlank := by
  by_cases blank : l.all isBlank = true
  · rw [filled_of_blank blank]
    simp [blank]
  · rw [filled, linesOf_of_free (plain.resolve_left blank) (by rintro rfl; exact blank rfl)]

/-- The filled lines of a text are the ones that were laid out in it, whatever their ends and however
many blank texts stand among them. -/
theorem filled_layOut {lines : List (List Char × LineEnd)} {last : List Char}
    (plain : ∀ l ∈ lines.map Prod.fst ++ [last],
      l.all isBlank = true ∨ ∀ c ∈ l, isLineBoundary c = false) :
    filled (layOut lines last) =
      (lines.map Prod.fst ++ [last]).filter fun l => !l.all isBlank := by
  induction lines with
  | nil => exact filled_of_plain (plain last (by simp))
  | cons line rest ih =>
      obtain ⟨c, ended, boundary⟩ := line.2.getLast?_append line.1
      have first := filled_ended (plain line.1 (by simp)) line.2
      have later := ih fun l member => plain l (List.mem_cons_of_mem _ member)
      have cut : layOut (line :: rest) last = (line.1 ++ line.2.chars) ++ layOut rest last := by
        simp [layOut]
      rw [cut, filled_append ended boundary, first, later, List.map_cons, List.cons_append,
        ← List.filter_append, List.singleton_append]

theorem filled_cons {c : Char} (inner : isLineBoundary c = false) (visible : isBlank c = false)
    (s : List Char) : ∃ l rest, filled (c :: s) = (c :: l) :: rest := by
  obtain ⟨l, rest, lines⟩ : ∃ l rest, linesOf (c :: s) = (c :: l) :: rest := by
    rw [linesOf_cons inner]
    cases linesOf s with
    | nil => exact ⟨[], [], rfl⟩
    | cons l rest => exact ⟨l, rest, rfl⟩
  unfold filled
  rw [lines, List.filter_cons_of_pos (by simp [visible])]
  exact ⟨l, _, rfl⟩

/-- A byte order mark in front of a text changes nothing, unless the first filled line begins with
another. -/
theorem filledLines_of_mark {s text : List Char}
    (unmarked : ∀ l, (filled s).head? = some l → l.head? ≠ some byteOrderMark)
    (marked : text = s ∨ text = byteOrderMark :: s) :
    filledLines text = (filled s).map String.ofList := by
  rw [filledLines_eq]
  rcases marked with rfl | rfl
  · cases text with
    | nil => rfl
    | cons c r =>
        by_cases mark : c = byteOrderMark
        · obtain ⟨l, rest, lines⟩ := filled_cons (c := c) (mark ▸ by decide) (mark ▸ by decide) r
          exact absurd (congrArg some mark) (unmarked (c :: l) (by rw [lines]; rfl))
        · rw [dropMark, if_neg mark]
  · rw [dropMark, if_pos rfl]

end Text

namespace Source

open RowLoader.Text RowLoader.Header

theorem linesOfBytes_encode (s : List Char) : linesOfBytes (Utf8.encode s) = .ok (filledLines s) := by
  unfold linesOfBytes
  rw [Utf8.dropMark_encode, Utf8.decode_encode]
  rfl

theorem readLines_encode (path : String) {s : List Char} (some : filledLines s ≠ []) :
    readLines path (.bytes (Utf8.encode s)) = .ok (filledLines s) := by
  unfold readLines
  dsimp only
  rw [linesOfBytes_encode]
  cases lines : filledLines s with
  | nil => exact absurd lines some
  | cons => rfl

/-- Rows with a cell for every field, no two of which share a key cell, are the records of their
lines. -/
theorem ingest_joined {fields : List Field} (numbered : Numbered fields) (some : fields ≠ [])
    {p : Separator} (single : p.tail = []) {rows : List (List String)}
    (square : ∀ row ∈ rows, row.length = fields.length)
    (free : ∀ row ∈ rows, ∀ cell ∈ row, p.head ∉ cell.toList)
    (fresh : ∀ f ∈ keys fields, (rows.map fun row => keyCell (row.map trim) f).Nodup)
    (firstRow : Int) :
    ingest fields p firstRow (rows.map (joined p)) =
      .ok (rows.mapIdx fun i row => ⟨firstRow + i, row.map trim⟩) := by
  have cells : ∀ row ∈ rows, cellsOf p (joined p row) = row.map trim := by
    intro row member
    refine cellsOf_joined single ?_ (free row member)
    rintro rfl
    exact some (List.length_eq_zero_iff.mp (square [] member).symm)
  have complete : ∀ line ∈ rows.map (joined p), isComplete fields p line = true := by
    intro line member
    obtain ⟨row, inside, rfl⟩ := List.mem_map.mp member
    unfold isComplete
    simp [cells row inside, square row inside]
  have clean : problemsOf fields p firstRow (rows.map (joined p)) = [] := by
    refine problemsOf_eq_nil_iff.mpr ⟨complete, ?_⟩
    rw [List.pairwise_map, List.pairwise_iff_getElem]
    intro i j within below before f key same
    unfold lineCell at same
    rw [cells _ (List.getElem_mem within), cells _ (List.getElem_mem below)] at same
    have apart := List.pairwise_iff_getElem.mp (fresh f key) i j (by simpa using within)
      (by simpa using below) before
    exact apart (by simpa using same)
  rw [ingest_eq numbered, clean]
  dsimp only
  rw [recordsFrom_of_complete complete]
  refine congrArg Except.ok (List.ext_getElem (by simp) ?_)
  intro i _ within
  have bound : i < rows.length := by simpa using within
  have member : rows[i] ∈ rows := List.getElem_mem bound
  have whole : rows[i].length ≤ fields.length := (square _ member).le
  simp only [List.getElem_mapIdx, List.getElem_map, recordOf, cells _ member]
  rw [List.take_of_length_le (by simpa using whole)]

theorem filled_of_laid {lines : List (List Char × LineEnd)} {last : List Char}
    {contents : List String} (free : ∀ l ∈ contents, ∀ c ∈ l.toList, isLineBoundary c = false)
    (laid : (lines.map Prod.fst ++ [last]).filter (fun l => !l.all isBlank) =
      contents.map String.toList) :
    filled (layOut lines last) = contents.map String.toList := by
  refine (filled_layOut ?_).trans laid
  intro l member
  by_cases blank : l.all isBlank = true
  · exact .inl blank
  · have kept : l ∈ contents.map String.toList := by
      rw [← laid]
      exact List.mem_filter.mpr ⟨member, by simpa using blank⟩
    obtain ⟨line, inside, rfl⟩ := List.mem_map.mp kept
    exact .inr (free line inside)

/-- From a file in which lines are laid out these lines are read, whatever their ends, whatever blank
lines stand among them, and with or without a byte order mark in front. -/
theorem readLines_laid_out (path : String) {lines : List (List Char × LineEnd)}
    {last text : List Char} {contents : List String} (some : contents ≠ [])
    (free : ∀ l ∈ contents, ∀ c ∈ l.toList, isLineBoundary c = false)
    (unmarked : ∀ l, contents.head? = .some l → l.toList.head? ≠ .some byteOrderMark)
    (laid : (lines.map Prod.fst ++ [last]).filter (fun l => !l.all isBlank) =
      contents.map String.toList)
    (marked : text = layOut lines last ∨ text = byteOrderMark :: layOut lines last) :
    readLines path (.bytes (Utf8.encode text)) = .ok contents := by
  have kept := filled_of_laid free laid
  have read : filledLines text = contents := by
    rw [filledLines_of_mark ?_ marked, kept]
    · simp [Function.comp_def]
    · intro l first
      rw [kept, List.head?_map] at first
      obtain ⟨line, here, rfl⟩ := Option.map_eq_some_iff.mp first
      exact unmarked line here
  rw [readLines_encode path (by rw [read]; exact some), read]

theorem joined_free {p : Separator} (inner : ∀ c ∈ p.chars, isLineBoundary c = false)
    {cells : List String} (free : ∀ cell ∈ cells, ∀ c ∈ cell.toList, isLineBoundary c = false) :
    ∀ c ∈ (joined p cells).toList, isLineBoundary c = false := by
  intro c member
  rcases mem_joined member with between | ⟨cell, inside, there⟩
  · exact inner c between
  · exact free cell inside c there

/-- From a file of a header and rows with a cell for each of its tokens, laid out with any ends of lines
and any blank lines and with or without a byte order mark in front, the same lines are read; the header
is cut into its tokens, trimmed, and the rows are the records, numbered from 2, each with its cells,
trimmed. It is enough that no cell has the separator or a boundary in it, that no line is blank, that the
header shows the separator and does not begin with a byte order mark itself, and that no key field has a
cell twice. -/
theorem read_laid_out (path : String) {p : Separator} {tokens : List String}
    {rows : List (List String)} {lines : List (List Char × LineEnd)} {last text : List Char}
    (some : tokens ≠ []) (square : ∀ row ∈ rows, row.length = tokens.length)
    (free : ∀ cells ∈ tokens :: rows, ∀ cell ∈ cells, ∀ c ∈ cell.toList,
      c ≠ p.head ∧ isLineBoundary c = false)
    (headed : separatorOf (joined p tokens) = p)
    (unmarked : (joined p tokens).toList.head? ≠ .some byteOrderMark)
    (laid : (lines.map Prod.fst ++ [last]).filter (fun l => !l.all isBlank) =
      (tokens :: rows).map fun cells => (joined p cells).toList)
    (marked : text = layOut lines last ∨ text = byteOrderMark :: layOut lines last)
    (fresh : ∀ f ∈ keys (Header.read (tokens.map .some)),
      (rows.map fun row => keyCell (row.map trim) f).Nodup) :
    let head := joined p tokens
    let data := rows.map (joined p)
    let fields := Header.read ((cellsOf (separatorOf head) head).map .some)
    readLines path (.bytes (Utf8.encode text)) = .ok (head :: data) ∧
      cellsOf (separatorOf head) head = tokens.map trim ∧
      fields.map Field.label = tokens.map trim ∧
      data.map (cellsOf (separatorOf head)) = rows.map (·.map trim) ∧
      ingest fields (separatorOf head) 2 data =
        .ok (rows.mapIdx fun i row => ⟨2 + i, row.map trim⟩) := by
  intro head data fields
  have single : p.tail = [] := headed ▸ tail_separatorOf _
  have apart : ∀ cells ∈ tokens :: rows, ∀ cell ∈ cells, p.head ∉ cell.toList :=
    fun cells member cell inside there => (free cells member cell inside _ there).1 rfl
  have cut : ∀ cells ∈ tokens :: rows, cellsOf p (joined p cells) = cells.map trim := by
    intro cells member
    have long : cells.length = tokens.length := by
      rcases List.mem_cons.mp member with rfl | row
      · rfl
      · exact square cells row
    refine cellsOf_joined single ?_ (apart cells member)
    rintro rfl
    exact some (List.length_eq_zero_iff.mp long.symm)
  have told : cellsOf (separatorOf head) head = tokens.map trim :=
    headed.symm ▸ cut tokens List.mem_cons_self
  have fields_eq : fields = Header.read (tokens.map .some) := by
    change Header.read ((cellsOf (separatorOf head) head).map .some) = _
    rw [told, read_trim]
  have long : (Header.read (tokens.map .some)).length = tokens.length := length_read tokens
  refine ⟨?_, told, ?_, ?_, ?_⟩
  · refine readLines_laid_out path (List.cons_ne_nil _ _) ?_ ?_ ?_ marked
    · intro l member
      obtain ⟨cells, inside, rfl⟩ : ∃ cells ∈ tokens :: rows, joined p cells = l :=
        List.mem_map.mp member
      exact joined_free (headed ▸ inner_separatorOf _) fun cell here c there =>
        (free cells inside cell here c there).2
    · rintro l first
      cases first
      exact unmarked
    · rw [laid]
      simp [head, data]
  · rw [fields_eq, map_label_read]
  · rw [headed, List.map_map]
    exact List.map_congr_left fun row member => cut row (List.mem_cons_of_mem _ member)
  · rw [headed, fields_eq]
    refine ingest_joined (numbered_read _) ?_ single ?_ ?_ fresh 2
    · rw [← List.length_pos_iff, long]
      exact List.length_pos_iff.mpr some
    · exact fun row member => (square row member).trans long.symm
    · exact fun row member => apart row (List.mem_cons_of_mem _ member)

/-- Two parts are read behind a byte order mark, with a blank line in front, another between the header and
the first of them, and every end of a line. -/
theorem read_laid_out_parts :
    let text := byteOrderMark :: "\rValue/K; Name \r\n\t \nA;\r;B ".toList
    readLines "parts.txt" (.bytes (Utf8.encode text)) = .ok ["Value/K; Name ", "A;", ";B "] ∧
      ingest (Header.read [some "Value/K", some "Name"]) .semicolon 2 ["A;", ";B "] =
        .ok [⟨2, ["A", ""]⟩, ⟨3, ["", "B"]⟩] := by
  intro text
  have free : ∀ cells ∈ [["Value/K", " Name "], ["A", ""], ["", "B "]], ∀ cell ∈ cells,
      cell.toList.all fun c => c ≠ Separator.semicolon.head ∧ isLineBoundary c = false := by
    decide +kernel
  have read := @read_laid_out "parts.txt" .semicolon ["Value/K", " Name "]
    [["A", ""], ["", "B "]]
    [([], .return), ("Value/K; Name ".toList, .returnFeed), ("\t ".toList, .feed),
      ("A;".toList, .return)] ";B ".toList text (by decide) (by decide)
    (fun cells member cell inside c there =>
      of_decide_eq_true (List.all_eq_true.mp (free cells member cell inside) c there))
    (by decide +kernel) (by decide +kernel) (by decide +kernel) (.inr (by decide +kernel))
    (by decide +kernel)
  have head : joined .semicolon ["Value/K", " Name "] = "Value/K; Name " := by decide +kernel
  have data : [["A", ""], ["", "B "]].map (joined .semicolon) = ["A;", ";B "] := by decide +kernel
  have cut : ["Value/K", " Name "].map trim = ["Value/K", "Name"] := by decide +kernel
  have headed : separatorOf "Value/K; Name " = .semicolon := by decide +kernel
  simp only [head, data] at read
  obtain ⟨kept, told, _, _, ingested⟩ := read
  refine ⟨kept, ?_⟩
  rw [told, cut, headed] at ingested
  exact ingested.trans (by decide +kernel)

end Source

end RowLoader
