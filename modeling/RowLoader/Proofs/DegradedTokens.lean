import RowLoader.Proofs.WrittenTokens

/-!
Tokens that fit nothing. Reading a token never fails: where nothing is left of its path, the field is the
whole token, and whatever the token is, the names of its field are trimmed and filled pieces of it. So
every field of a header has a target, and a look-up has a table to search.
-/

namespace RowLoader

namespace Text

def Trimmed (s : String) : Prop :=
  ∀ c, s.toList.head? = some c ∨ s.toList.getLast? = some c → isBlank c = false

theorem trimmed_trim (s : String) : Trimmed (trim s) := by
  intro c ends
  rw [toList_trim] at ends
  rcases ends with first | last
  · exact head?_trimChars first
  · exact getLast?_trimChars last

theorem not_mem_of_mem_split {p : Separator} (single : p.tail = []) {s f : List Char}
    (member : f ∈ split p s) : p.head ∉ f := by
  unfold split at member
  induction s generalizing f with
  | nil =>
      rw [splitFrom, List.mem_singleton] at member
      simp [member]
  | cons c rest ih =>
      by_cases separator : p.head = c
      · subst separator
        rw [splitFrom_separator single] at member
        rcases List.mem_cons.mp member with rfl | later
        · exact List.not_mem_nil
        · exact ih later
      · rw [splitFrom_cons_of_ne single separator] at member
        cases cut : splitFrom p 0 rest with
        | nil => exact absurd cut (splitFrom_ne_nil p 0 rest)
        | cons g gs =>
            rw [cut] at member ih
            rcases List.mem_cons.mp member with rfl | later
            · simp [separator, ih List.mem_cons_self]
            · exact ih (List.mem_cons_of_mem g later)

end Text

namespace Header

open RowLoader.Text

theorem nonBlank?_filled {s : List Char} {t : String} (h : nonBlank? s = some t) :
    t ≠ "" ∧ Trimmed t := by
  have named : t = trim (String.ofList s) := by
    rw [nonBlank?_some h, trim, String.toList_ofList]
  refine ⟨?_, named ▸ trimmed_trim _⟩
  rintro rfl
  have nothing : trimChars s = [] := by
    rw [← String.toList_ofList (l := s), ← toList_trim, ← named]
    rfl
  rw [nonBlank?, nothing] at h
  cases h

theorem segment_filled {s : List Char} {name : String} (member : name ∈ segments s) :
    name ≠ "" ∧ Trimmed name ∧ '>' ∉ name.toList := by
  obtain ⟨f, field, named⟩ := List.mem_filterMap.mp member
  obtain ⟨filled, trimmed⟩ := nonBlank?_filled named
  have piece : name.toList <:+: f := by
    rw [nonBlank?_some named, String.toList_ofList]
    exact trimChars_isInfix f
  exact ⟨filled, trimmed, fun sign => not_mem_of_mem_split rfl field (piece.subset sign)⟩

theorem takeLookup_filled {s : List Char} {column : String} (named : (takeLookup s).2 = some column) :
    column ≠ "" ∧ Trimmed column := by
  unfold takeLookup at named
  split at named
  · cases named
  · exact nonBlank?_filled named

def EndsInMark (token : String) : Prop :=
  ∃ letter ∈ ['K', 'k'], ['/', letter] <:+ token.toList

theorem endsInMark_iff {token : String} : EndsInMark token ↔ hasKeyMark token.toList = true := by
  rw [hasKeyMark_iff]
  constructor
  · rintro ⟨letter, known, body, whole⟩
    exact ⟨body, letter, whole.symm, known⟩
  · rintro ⟨body, letter, whole, known⟩
    exact ⟨letter, known, body, whole.symm⟩

theorem takeKeyMark_fst (s : List Char) : (takeKeyMark s).1 = hasKeyMark s := by
  unfold takeKeyMark
  split
  · rename_i marked
    exact marked.symm
  · rename_i unmarked
    exact (Bool.eq_false_iff.mpr unmarked).symm

/-- A field that is its whole token, with neither look-up nor key mark. -/
structure Field.Degraded (f : Field) : Prop where
  path : f.path = [f.token]
  lookup : f.lookup = none
  isKey : f.isKey = false

/-- A field whose names are trimmed pieces of its token, and which has a target and a table for its
look-up. -/
structure Field.Sound (f : Field) : Prop where
  path_ne_nil : f.path ≠ []
  trimmed : ∀ name ∈ f.path, Trimmed name
  filled : f.token ≠ "" → ∀ name ∈ f.path, name ≠ ""
  lookup : ∀ column ∈ f.lookup, column ≠ "" ∧ Trimmed column
  inOrder : InOrder ((f.path ++ f.lookup.toList).map String.toList) f.token.toList
  marked : EndsInMark f.token → f.isKey = true ∨ f.Degraded
  unmarked : ¬ EndsInMark f.token → f.isKey = false
  separate : f.Degraded ∨ ∀ name ∈ f.path, '>' ∉ name.toList
  target : f.path.getLast? = some f.target
  unsearched : f.lookup = none → f.lookupTable = none
  searched : f.lookup ≠ none →
    (∃ front table, f.path = front ++ [table, f.target] ∧ f.lookupTable = some table) ∨
      f.path = [f.target] ∧ f.lookupTable = some (Field.withoutIdSuffix f.target)

/-- A look-up searches the last but one name of the path, or the table that the only one means. -/
theorem Field.lookupTable_cases {f : Field} (look : f.lookup ≠ none) :
    (∃ front table, f.path = front ++ [table, f.target] ∧ f.lookupTable = some table) ∨
      f.path = [f.target] ∧ f.lookupTable = some (Field.withoutIdSuffix f.target) := by
  obtain ⟨column, named⟩ := Option.ne_none_iff_exists'.mp look
  unfold Field.path Field.lookupTable
  rw [named]
  cases shape : f.qualifiers using List.reverseRecOn with
  | nil => exact .inr ⟨rfl, rfl⟩
  | append_singleton front table _ => exact .inl ⟨front, table, by simp, by simp⟩

namespace ReadAs

variable {token : String} {position : Int} {f : Field}

theorem token_eq (h : ReadAs token position f) : f.token = token := by
  cases h <;> rfl

theorem names (h : ReadAs token position f) :
    f.Degraded ∨ ∀ name ∈ f.path, name ≠ "" ∧ Trimmed name ∧ '>' ∉ name.toList := by
  cases h with
  | whole => exact .inl ⟨rfl, rfl, rfl⟩
  | parts _ _ path =>
      rw [Field.path, ← path]
      exact .inr fun name member => segment_filled member

theorem lookup_filled (h : ReadAs token position f) :
    ∀ column ∈ f.lookup, column ≠ "" ∧ Trimmed column := by
  cases h with
  | whole => exact nofun
  | @parts _ body _ _ _ _ _ looked _ =>
      intro column named
      exact takeLookup_filled (s := body) (by rwa [looked])

theorem isKey_iff (h : ReadAs token position f) :
    f.Degraded ∨ (f.isKey = true ↔ EndsInMark f.token) := by
  cases h with
  | whole => exact .inl ⟨rfl, rfl, rfl⟩
  | parts marked _ _ =>
      rw [endsInMark_iff, ← takeKeyMark_fst, marked]
      exact .inr .rfl

theorem sound (h : ReadAs token position f) (trimmed : Trimmed token) : f.Sound := by
  have pieces := h.inOrder
  have names := h.names
  have key := h.isKey_iff
  rw [← h.token_eq] at pieces trimmed
  refine ⟨f.path_ne_nil, ?_, ?_, h.lookup_filled, pieces, ?_, ?_, ?_, by simp [Field.path], ?_,
    Field.lookupTable_cases⟩
  · rcases names with degraded | each
    · simpa [degraded.path] using trimmed
    · exact fun name member => (each name member).2.1
  · intro filled
    rcases names with degraded | each
    · simpa [degraded.path] using filled
    · exact fun name member => (each name member).1
  · exact fun ended => key.elim .inr fun same => .inl (same.mpr ended)
  · intro other
    rcases key with degraded | same
    · exact degraded.isKey
    · exact Bool.eq_false_iff.mpr fun isKey => other (same.mp isKey)
  · exact names.imp_right fun each name member => (each name member).2.2
  · intro none
    rw [Field.lookupTable, none, Option.map_none]

end ReadAs

theorem read_sound (text : Option String) (position : Int) :
    (Field.read text position).token = trim (text.getD "") ∧ (Field.read text position).Sound :=
  ⟨(readAs_read text position).token_eq, (readAs_read text position).sound (trimmed_trim _)⟩

/-- Whatever a token is, the field that it is read as tells the trimmed token and is made of trimmed
pieces of it; a header has such a field for each of its tokens. -/
theorem read_degrades_safely (text : Option String) (position : Int)
    (tokens : List (Option String)) :
    (Field.read text position).token = trim (text.getD "") ∧ (Field.read text position).Sound ∧
      List.Forall₂ (fun text f => f.token = trim (text.getD "") ∧ f.Sound) tokens (read tokens) := by
  refine ⟨(read_sound text position).1, (read_sound text position).2, ?_⟩
  unfold read
  generalize (1 : Int) = first
  induction tokens generalizing first with
  | nil => exact .nil
  | cons token rest ih => exact .cons (read_sound token first) (ih _)

/-- Of a mark behind an empty path only the token is left, and no key; a look-up on a path searches the
table before its target. -/
theorem lone_mark_degrades_safely :
    (EndsInMark (Field.read (some " >/k ") 1).token ∧ (Field.read (some " >/k ") 1).Degraded ∧
        (Field.read (some " >/k ") 1).token = ">/k") ∧
      (Field.read (some "Part>Part_ID[ Value ]") 2).lookup ≠ none ∧
      (Field.read (some "Part>Part_ID[ Value ]") 2).isKey = false ∧
      ∃ front table, (Field.read (some "Part>Part_ID[ Value ]") 2).path = front ++ [table, "Part_ID"] ∧
        (Field.read (some "Part>Part_ID[ Value ]") 2).lookupTable = some table := by
  obtain ⟨token, alone, _⟩ := read_degrades_safely (some " >/k ") 1 []
  obtain ⟨shown, path, _⟩ := read_degrades_safely (some "Part>Part_ID[ Value ]") 2 []
  have trimmed : trim " >/k " = ">/k" := by decide +kernel
  have ended : EndsInMark (Field.read (some " >/k ") 1).token := by
    rw [token, Option.getD_some, trimmed]
    exact ⟨'k', by decide, ['>'], by decide⟩
  have unmarked : ¬ EndsInMark (Field.read (some "Part>Part_ID[ Value ]") 2).token := by
    rw [shown, endsInMark_iff]
    decide +kernel
  have look : (Field.read (some "Part>Part_ID[ Value ]") 2).lookup ≠ none := by decide +kernel
  have target : (Field.read (some "Part>Part_ID[ Value ]") 2).target = "Part_ID" := by decide +kernel
  have several : (Field.read (some "Part>Part_ID[ Value ]") 2).path ≠
      [(Field.read (some "Part>Part_ID[ Value ]") 2).target] := by decide +kernel
  refine ⟨⟨ended, (alone.marked ended).resolve_left (by decide +kernel), token.trans trimmed⟩, look,
    path.unmarked unmarked, ?_⟩
  rw [← target]
  exact (path.searched look).resolve_right fun only => several only.1

end Header

end RowLoader
