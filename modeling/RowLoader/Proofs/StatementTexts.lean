import RowLoader.Proofs.Insertion
import RowLoader.Proofs.Rendering

/-!
What the text of a statement is made of. Every name is tested before there is a statement, and the
text consists of fixed words and marks, of these names in their order and of numbered parameters. The
test lets one line feed pass at the end of a name; without one, a text has no other characters than
those of identifiers, blanks, commas, parentheses, colons and equals signs.
-/

namespace RowLoader

open RowLoader.Store RowLoader.Identifier

namespace Identifier

/-- A text that is an identifier as a whole: a letter of ASCII or an underscore, then letters, digits
and underscores. -/
def IsIdentifier (name : String) : Prop :=
  isWord name.toList = true

instance (name : String) : Decidable (IsIdentifier name) :=
  inferInstanceAs (Decidable (isWord name.toList = true))

theorem isPart_of_isWord {s : List Char} (word : isWord s = true) : ∀ c ∈ s, isPart c = true := by
  cases s with
  | nil => exact fun c member => absurd member List.not_mem_nil
  | cons first rest =>
      obtain ⟨start, parts⟩ := (Bool.and_eq_true _ _).mp word
      intro c member
      rcases List.mem_cons.mp member with rfl | later
      · unfold isPart
        rw [start]
        rfl
      · exact List.all_eq_true.mp parts c later

theorem getLast?_of_isWord {s : List Char} (word : isWord s = true) : s.getLast? ≠ some '\n' := by
  intro feed
  have part := isPart_of_isWord word '\n' (List.mem_of_getLast? feed)
  exact absurd part (by decide)

/-- An identifier with one line feed behind it, or with none. -/
def Passes (name : String) : Prop :=
  IsIdentifier name ∨ ∃ word, IsIdentifier word ∧ name = word ++ "\n"

theorem isPlain_iff {name : String} : isPlain name = true ↔ Passes name := by
  unfold isPlain Passes IsIdentifier
  constructor
  · intro plain
    unfold dropFinalFeed at plain
    split at plain
    · rename_i feed
      refine .inr ⟨String.ofList name.toList.dropLast, by rw [String.toList_ofList]; exact plain, ?_⟩
      apply String.toList_inj.mp
      rw [String.toList_append, String.toList_ofList]
      exact (List.dropLast_append_getLast? '\n' feed).symm
    · exact .inl plain
  · rintro (word | ⟨word, here, rfl⟩)
    · unfold dropFinalFeed
      rw [if_neg (getLast?_of_isWord word)]
      exact word
    · rw [String.toList_append]
      change isWord (dropFinalFeed (word.toList ++ ['\n'])) = true
      unfold dropFinalFeed
      rw [if_pos List.getLast?_concat, List.dropLast_concat]
      exact here

/-- Without a line feed at its end a name passes where it is an identifier. -/
theorem passes_of_solid {name : String} (solid : name.toList.getLast? ≠ some '\n') :
    Passes name ↔ IsIdentifier name := by
  refine ⟨?_, .inl⟩
  rintro (word | ⟨word, _, rfl⟩)
  · exact word
  · rw [String.toList_append] at solid
    exact absurd List.getLast?_concat solid

/-- A name that passes has no character that no identifier has, the line feed at its end apart. -/
theorem Passes.isPart {name : String} (passes : Passes name) : ∀ c ∈ name.toList,
    isPart c = true ∨ c = '\n' ∧ name.toList.getLast? = some '\n' := by
  intro c member
  rcases passes with word | ⟨word, here, rfl⟩
  · exact .inl (isPart_of_isWord word c member)
  · rw [String.toList_append] at member ⊢
    rcases List.mem_append.mp member with inside | last
    · exact .inl (isPart_of_isWord here c inside)
    · exact .inr ⟨List.mem_singleton.mp last, List.getLast?_concat⟩

end Identifier

namespace Store.Statement

def mentioned : Statement → List String
  | .insert table columns => table :: columns.names
  | .update table sets conditions => table :: (sets.names ++ conditions.map (·.1))

/-- The names in a statement, in the order in which they are tested: that of the table comes last. -/
def tested : Statement → List String
  | .insert table columns => columns.names ++ [table]
  | .update table sets conditions => sets.names ++ (conditions.map (·.1) ++ [table])

def assemble : Statement → Except Fault Statement
  | .insert table columns => makeInsert table columns
  | .update table sets conditions => makeUpdate table sets conditions

def misnamed (name : String) : Fault :=
  .setup (.badIdentifier (some name) none)

theorem mem_tested {st : Statement} {n : String} : n ∈ st.tested ↔ n ∈ st.mentioned := by
  cases st <;> simp only [tested, mentioned, List.mem_append, List.mem_cons, List.not_mem_nil] <;>
    tauto

theorem checked_eq (name : String) :
    checked (some name) none = if isPlain name then .ok name else .error (misnamed name) := rfl

theorem checkNames_eq (names : List String) : checkNames names =
    match names.find? fun n => !isPlain n with
    | none => .ok ()
    | some n => .error (misnamed n) := by
  induction names with
  | nil => rfl
  | cons n rest ih =>
      rw [checkNames, checked_eq]
      cases plain : isPlain n with
      | true =>
          rw [if_pos rfl, except_ok_bind, ih, List.find?_cons_of_neg (by simp [plain])]
      | false =>
          rw [if_neg Bool.false_ne_true, List.find?_cons_of_pos (by simp [plain])]
          rfl

theorem checkNames_append (names others : List String) : checkNames (names ++ others) =
    (checkNames names >>= fun _ => checkNames others) := by
  induction names with
  | nil => rfl
  | cons n rest ih =>
      rw [List.cons_append, checkNames, checkNames, ih]
      cases checked (some n) none <;> rfl

/-- A statement is made where all its names pass one test after the other. -/
theorem assemble_eq_tested (st : Statement) :
    st.assemble = (checkNames st.tested >>= fun _ => .ok st) := by
  cases st with
  | insert table columns =>
      change makeInsert table columns = _
      unfold makeInsert tested
      simp only [checkNames_append, checkNames, bind_assoc, except_ok_bind]
      rfl
  | update table sets conditions =>
      change makeUpdate table sets conditions = _
      unfold makeUpdate tested
      simp only [checkNames_append, checkNames, bind_assoc, except_ok_bind]
      rfl

theorem assemble_eq (st : Statement) : st.assemble =
    match st.tested.find? fun n => !isPlain n with
    | none => .ok st
    | some n => .error (misnamed n) := by
  rw [assemble_eq_tested, checkNames_eq]
  cases st.tested.find? fun n => !isPlain n <;> rfl

theorem find?_tested_eq_none {st : Statement} :
    (st.tested.find? fun n => !isPlain n) = none ↔ ∀ n ∈ st.mentioned, Passes n := by
  rw [List.find?_eq_none]
  refine forall_congr' fun n => ?_
  rw [mem_tested, ← isPlain_iff]
  simp

theorem assemble_ok_iff {st : Statement} :
    st.assemble = .ok st ↔ ∀ n ∈ st.mentioned, Passes n := by
  rw [← find?_tested_eq_none, assemble_eq]
  cases st.tested.find? fun n => !isPlain n with
  | none => exact iff_of_true rfl rfl
  | some n => exact iff_of_false nofun nofun

theorem assemble_refused {st : Statement} (refused : st.assemble ≠ .ok st) :
    ∃ n ∈ st.mentioned, ¬ Passes n ∧ st.assemble = .error (misnamed n) := by
  rw [assemble_eq] at refused ⊢
  cases first : st.tested.find? fun n => !isPlain n with
  | none =>
      rw [first] at refused
      exact absurd rfl refused
  | some n =>
      refine ⟨n, mem_tested.mp (List.mem_of_find?_eq_some first), ?_, rfl⟩
      rw [← isPlain_iff]
      simpa using List.find?_some first

/-- What the text of a statement is made of. -/
inductive Piece where
  | fixed (text : String)
  | name (text : String)
  | parameter (text : String)
deriving DecidableEq

namespace Piece

def text : Piece → String
  | .fixed t => t
  | .name t => t
  | .parameter t => t

def name? : Piece → Option String
  | .name t => some t
  | _ => none

def parameter? : Piece → Option String
  | .parameter t => some t
  | _ => none

def spell (pieces : List Piece) : String :=
  String.join (pieces.map text)

end Piece

def fixedTexts : List String :=
  ["INSERT INTO ", " (", ", ", ") VALUES (", ":", ")", "UPDATE ", " SET ", " = :", " WHERE ", " AND "]

/-- Names that are set to parameters, or compared with them. -/
def assignedPieces (names parameters : List String) : List (List Piece) :=
  List.zipWith (fun n p => [.name n, .fixed " = :", .parameter p]) names parameters

def pieces : Statement → List Piece
  | .insert table columns =>
    [.fixed "INSERT INTO ", .name table, .fixed " ("]
      ++ [Piece.fixed ", "].intercalate (columns.names.map fun n => [.name n])
      ++ [.fixed ") VALUES ("]
      ++ [Piece.fixed ", "].intercalate
        ((parameterNames "v" columns.length).map fun p => [.fixed ":", .parameter p])
      ++ [.fixed ")"]
  | .update table sets conditions =>
    [.fixed "UPDATE ", .name table, .fixed " SET "]
      ++ [Piece.fixed ", "].intercalate
        (assignedPieces sets.names (parameterNames "s" sets.length))
      ++ [.fixed " WHERE "]
      ++ [Piece.fixed " AND "].intercalate
        (assignedPieces (conditions.map (·.1)) (parameterNames "w" conditions.length))

namespace Piece

theorem spell_append (a b : List Piece) : spell (a ++ b) = spell a ++ spell b := by
  apply String.toList_inj.mp
  simp only [spell, String.toList_append, String.toList_join, List.map_append, List.flatMap_append]

theorem spell_cons (p : Piece) (rest : List Piece) : spell (p :: rest) = p.text ++ spell rest := by
  apply String.toList_inj.mp
  simp only [spell, String.toList_append, String.toList_join, List.map_cons, List.flatMap_cons]

theorem spell_intercalate (mark : String) (parts : List (List Piece)) :
    spell ([Piece.fixed mark].intercalate parts) = mark.intercalate (parts.map spell) := by
  induction parts with
  | nil => rfl
  | cons part rest ih =>
      cases rest with
      | nil => simp [List.intercalate]
      | cons next rest =>
          have between : spell [.fixed mark] = mark := by simp [spell, text]
          rw [List.intercalate_cons_cons, spell_append, spell_append, ih, between]
          simp only [List.map_cons, String.intercalate_cons_cons]

end Piece

theorem spell_assignedPieces (names parameters : List String) :
    (assignedPieces names parameters).map Piece.spell = assignments names parameters := by
  unfold assignedPieces assignments
  rw [List.map_zipWith]
  simp only [Piece.spell, Piece.text, List.map_cons, List.map_nil, String.join_cons, String.join_nil,
    String.append_assoc, String.append_empty]

theorem render_eq_spell (st : Statement) : st.render = Piece.spell st.pieces := by
  have named : ∀ names : List String, (names.map fun n => [Piece.name n]).map Piece.spell = names := by
    intro names
    rw [List.map_map, show Piece.spell ∘ (fun n => [Piece.name n]) = id from
      funext fun n => by simp [Piece.spell, Piece.text], List.map_id]
  have marked : ∀ names : List String,
      (names.map fun p => [Piece.fixed ":", .parameter p]).map Piece.spell = names.map (":" ++ ·) := by
    intro names
    rw [List.map_map]
    rfl
  cases st with
  | insert table columns =>
      unfold render pieces
      simp only [Piece.spell_append, Piece.spell_cons, Piece.spell_intercalate, named, marked]
      simp only [Piece.text, Piece.spell, List.map_nil, String.join_nil, String.append_empty,
        String.append_assoc]
  | update table sets conditions =>
      unfold render pieces
      simp only [Piece.spell_append, Piece.spell_cons, Piece.spell_intercalate, spell_assignedPieces]
      simp only [Piece.text, Piece.spell, List.map_nil, String.join_nil, String.append_empty,
        String.append_assoc]

theorem filterMap_intercalate {α β : Type} (f : α → Option β) {mark : List α}
    (silent : mark.filterMap f = []) (parts : List (List α)) :
    (mark.intercalate parts).filterMap f = parts.flatMap (List.filterMap f) := by
  induction parts with
  | nil => rfl
  | cons part rest ih =>
      cases rest with
      | nil => simp [List.intercalate]
      | cons next rest =>
          rw [List.intercalate_cons_cons, List.filterMap_append, List.filterMap_append, silent,
            List.append_nil, ih]
          rfl

theorem filterMap_assignedPieces {names parameters : List String}
    (even : parameters.length = names.length) :
    (assignedPieces names parameters).flatMap (List.filterMap Piece.name?) = names ∧
      (assignedPieces names parameters).flatMap (List.filterMap Piece.parameter?) = parameters := by
  unfold assignedPieces
  induction names generalizing parameters with
  | nil =>
      rw [List.length_eq_zero_iff.mp even]
      exact ⟨rfl, rfl⟩
  | cons n rest ih =>
      cases parameters with
      | nil => cases even
      | cons p later =>
          obtain ⟨names, numbers⟩ := ih (Nat.succ.inj even)
          rw [List.zipWith_cons_cons, List.flatMap_cons, List.flatMap_cons, names, numbers]
          exact ⟨rfl, rfl⟩

/-- The names in a text are those of its statement and the parameters the numbered ones, in their
order. -/
theorem filterMap_pieces (st : Statement) : st.pieces.filterMap Piece.name? = st.mentioned ∧
    st.pieces.filterMap Piece.parameter? = st.numbered := by
  cases st with
  | insert table columns =>
      unfold pieces mentioned numbered
      simp only [List.filterMap_append]
      constructor <;> rw [filterMap_intercalate _ rfl, filterMap_intercalate _ rfl] <;>
        simp [List.filterMap_cons, Piece.name?, Piece.parameter?, List.flatMap_map]
  | update table sets conditions =>
      have set := @filterMap_assignedPieces sets.names (parameterNames "s" sets.length)
        (by simp [length_parameterNames, Columns.names])
      have compared := @filterMap_assignedPieces (conditions.map (·.1))
        (parameterNames "w" conditions.length) (by simp [length_parameterNames])
      unfold pieces mentioned numbered
      simp only [List.filterMap_append]
      constructor
      · rw [filterMap_intercalate _ rfl, filterMap_intercalate _ rfl, set.1, compared.1]
        simp [List.filterMap_cons, Piece.name?]
      · rw [filterMap_intercalate _ rfl, filterMap_intercalate _ rfl, set.2, compared.2]
        simp [List.filterMap_cons, Piece.parameter?]

theorem mem_intercalate {α : Type} {x : α} {mark : List α} {parts : List (List α)}
    (member : x ∈ mark.intercalate parts) : x ∈ mark ∨ ∃ part ∈ parts, x ∈ part := by
  induction parts with
  | nil => cases member
  | cons part rest ih =>
      cases rest with
      | nil => exact .inr ⟨part, List.mem_cons_self, by simpa [List.intercalate] using member⟩
      | cons next rest =>
          rw [List.intercalate_cons_cons, List.mem_append, List.mem_append] at member
          rcases member with (first | between) | later
          · exact .inr ⟨part, List.mem_cons_self, first⟩
          · exact .inl between
          · exact (ih later).imp id fun ⟨p, inside, there⟩ =>
              ⟨p, List.mem_cons_of_mem _ inside, there⟩

theorem fixed_assignedPieces {names parameters : List String} {part : List Piece}
    (member : part ∈ assignedPieces names parameters) {t : String} (fixed : .fixed t ∈ part) :
    t = " = :" := by
  unfold assignedPieces at member
  obtain ⟨i, bound, rfl⟩ := List.getElem_of_mem member
  rw [List.getElem_zipWith] at fixed
  simpa using fixed

theorem fixed_intercalate {t mark : String} (known : mark ∈ fixedTexts) {parts : List (List Piece)}
    (each : ∀ part ∈ parts, .fixed t ∈ part → t ∈ fixedTexts)
    (member : .fixed t ∈ [Piece.fixed mark].intercalate parts) : t ∈ fixedTexts := by
  rcases mem_intercalate member with between | ⟨part, inside, fixed⟩
  · cases List.mem_singleton.mp between
    exact known
  · exact each part inside fixed

/-- What is neither a name nor a parameter in a text is one of the fixed words and marks. -/
theorem fixed_pieces {st : Statement} {t : String} (fixed : .fixed t ∈ st.pieces) :
    t ∈ fixedTexts := by
  have assigned : ∀ {names parameters : List String},
      ∀ part ∈ assignedPieces names parameters, .fixed t ∈ part → t ∈ fixedTexts := by
    intro names parameters part member inside
    rw [fixed_assignedPieces member inside]
    decide
  cases st with
  | insert table columns =>
      simp only [pieces, List.mem_append, List.mem_cons, Piece.fixed.injEq, reduceCtorEq,
        List.not_mem_nil, or_false, false_or] at fixed
      rcases fixed with ((((rfl | rfl) | named) | rfl) | numbered) | rfl
      · decide
      · decide
      · refine fixed_intercalate (by decide) ?_ named
        intro part member inside
        obtain ⟨n, _, rfl⟩ := List.mem_map.mp member
        simp at inside
      · decide
      · refine fixed_intercalate (by decide) ?_ numbered
        intro part member inside
        obtain ⟨p, _, rfl⟩ := List.mem_map.mp member
        have mark : t = ":" := by simpa using inside
        rw [mark]
        decide
      · decide
  | update table sets conditions =>
      simp only [pieces, List.mem_append, List.mem_cons, Piece.fixed.injEq, reduceCtorEq,
        List.not_mem_nil, or_false, false_or] at fixed
      rcases fixed with (((rfl | rfl) | set) | rfl) | compared
      · decide
      · decide
      · exact fixed_intercalate (by decide) assigned set
      · decide
      · exact fixed_intercalate (by decide) assigned compared

/-- A character that the text of a statement may have. -/
def isMark (c : Char) : Bool :=
  isPart c || [' ', ',', '(', ')', ':', '='].contains c

theorem isMark_of_isPart {c : Char} (part : isPart c = true) : isMark c = true := by
  unfold isMark
  rw [part]
  rfl

theorem isMark_of_fixedTexts : ∀ t ∈ fixedTexts, ∀ c ∈ t.toList, isMark c = true := by
  have each : fixedTexts.all (fun t => t.toList.all isMark) = true := by decide
  intro t fixed
  exact List.all_eq_true.mp (List.all_eq_true.mp each t fixed)

theorem isPart_of_digit {c : Char} (digit : c.isDigit = true) : isPart c = true := by
  have within : ('0' ≤ c && c ≤ '9') = true := by
    simp only [Char.isDigit, Bool.and_eq_true, decide_eq_true_eq] at digit ⊢
    exact digit
  unfold isPart
  rw [within, Bool.or_true]

theorem isPart_of_parameterNames {letter : String} (part : letter.toList.all isPart = true)
    {count : Nat} {parameter : String} (member : parameter ∈ parameterNames letter count) :
    ∀ c ∈ parameter.toList, isPart c = true := by
  obtain ⟨i, _, rfl⟩ := List.mem_map.mp member
  intro c inside
  rw [String.toList_append, List.mem_append] at inside
  rcases inside with first | digit
  · exact List.all_eq_true.mp part c first
  · have spelled : (toString i).toList = Nat.toDigits 10 i := Nat.toList_repr
    rw [spelled] at digit
    exact isPart_of_digit (Nat.isDigit_of_mem_toDigits (by decide) (by decide) digit)

theorem isPart_of_numbered {st : Statement} {parameter : String} (member : parameter ∈ st.numbered) :
    ∀ c ∈ parameter.toList, isPart c = true := by
  cases st with
  | insert table columns => exact isPart_of_parameterNames (by decide) member
  | update table sets conditions =>
      rcases List.mem_append.mp member with set | compared
      · exact isPart_of_parameterNames (by decide) set
      · exact isPart_of_parameterNames (by decide) compared

theorem Piece.mem_spell {ps : List Piece} {c : Char} (member : c ∈ (spell ps).toList) :
    ∃ p ∈ ps, c ∈ p.text.toList := by
  unfold spell at member
  rw [String.toList_join] at member
  obtain ⟨t, there, inside⟩ := List.mem_flatMap.mp member
  obtain ⟨p, piece, rfl⟩ := List.mem_map.mp there
  exact ⟨p, piece, inside⟩

/-- Where the names pass, the text has no other characters than marks and the line feeds behind
names. -/
theorem isMark_render {st : Statement} (pass : ∀ n ∈ st.mentioned, Passes n) :
    ∀ c ∈ st.render.toList,
      isMark c = true ∨ c = '\n' ∧ ∃ n ∈ st.mentioned, n.toList.getLast? = some '\n' := by
  intro c member
  rw [render_eq_spell] at member
  obtain ⟨p, piece, inside⟩ := Piece.mem_spell member
  cases p with
  | fixed t => exact .inl (isMark_of_fixedTexts t (fixed_pieces piece) c inside)
  | name n =>
      have there : n ∈ st.mentioned := by
        rw [← (filterMap_pieces st).1]
        exact List.mem_filterMap.mpr ⟨_, piece, rfl⟩
      rcases (pass n there).isPart c inside with part | ⟨feed, last⟩
      · exact .inl (isMark_of_isPart part)
      · exact .inr ⟨feed, n, there, last⟩
  | parameter t =>
      have there : t ∈ st.numbered := by
        rw [← (filterMap_pieces st).2]
        exact List.mem_filterMap.mpr ⟨_, piece, rfl⟩
      exact .inl (isMark_of_isPart (isPart_of_numbered there c inside))

/-- What reaches a statement. There is a statement where every name in it is an identifier, or is one
but for a line feed behind it, and else the fault of one of the other names. Its text is made of the
fixed words and marks, of its names in their order and of the numbered parameters, and has no other
characters than those of identifiers and marks, the line feeds behind names apart. So where no name
ends in a line feed, there is a statement where all names are identifiers, and its text has no other
characters. -/
theorem statement_of_names (st : Statement) :
    (st.assemble = .ok st ↔ ∀ n ∈ st.mentioned, Passes n) ∧
    (st.assemble ≠ .ok st → ∃ n ∈ st.mentioned, ¬ Passes n ∧ st.assemble = .error (misnamed n)) ∧
    st.render = Piece.spell st.pieces ∧ st.pieces.filterMap Piece.name? = st.mentioned ∧
    st.pieces.filterMap Piece.parameter? = st.numbered ∧
    (∀ t, .fixed t ∈ st.pieces → t ∈ fixedTexts) ∧
    (st.assemble = .ok st → ∀ c ∈ st.render.toList,
      isMark c = true ∨ c = '\n' ∧ ∃ n ∈ st.mentioned, n.toList.getLast? = some '\n') ∧
    ((∀ n ∈ st.mentioned, n.toList.getLast? ≠ some '\n') →
      (st.assemble = .ok st ↔ ∀ n ∈ st.mentioned, IsIdentifier n) ∧
      (st.assemble = .ok st → ∀ c ∈ st.render.toList, isMark c = true)) := by
  have marks : st.assemble = .ok st → ∀ c ∈ st.render.toList,
      isMark c = true ∨ c = '\n' ∧ ∃ n ∈ st.mentioned, n.toList.getLast? = some '\n' :=
    fun made => isMark_render (assemble_ok_iff.mp made)
  obtain ⟨names, parameters⟩ := filterMap_pieces st
  refine ⟨assemble_ok_iff, assemble_refused, render_eq_spell st, names, parameters,
    fun t => fixed_pieces, marks, fun solid => ⟨?_, ?_⟩⟩
  · rw [assemble_ok_iff]
    exact forall₂_congr fun n there => passes_of_solid (solid n there)
  · intro made c member
    rcases marks made c member with mark | ⟨_, n, there, last⟩
    · exact mark
    · exact absurd last (solid n there)

/-- An insertion of parts is made, and whatever its value has, its text has only the characters of
identifiers and marks. -/
theorem statement_of_part_names :
    (Statement.insert "Part" [("Value", .text "A;\n")]).assemble =
        .ok (.insert "Part" [("Value", .text "A;\n")]) ∧
      ∀ c ∈ (Statement.insert "Part" [("Value", .text "A;\n")]).render.toList, isMark c = true := by
  obtain ⟨made, marks⟩ :=
    (statement_of_names (.insert "Part" [("Value", .text "A;\n")])).2.2.2.2.2.2.2 (by decide)
  have all := made.mpr (by decide)
  exact ⟨all, marks all⟩

/-- A name that is no identifier enters a text, and a line feed with it. -/
theorem line_feed_enters_text :
    (Statement.insert "Part" [("Value\n", .text "A")]).assemble =
        .ok (.insert "Part" [("Value\n", .text "A")]) ∧
      ¬ IsIdentifier "Value\n" ∧
      '\n' ∈ (Statement.insert "Part" [("Value\n", .text "A")]).render.toList ∧
      isMark '\n' = false := by
  refine ⟨rfl, ?_, ?_, ?_⟩ <;> decide +kernel

end Store.Statement

end RowLoader
