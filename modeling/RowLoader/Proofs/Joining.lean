import Mathlib.Data.List.Basic
import RowLoader.Proofs.Names

/-!
Joining fields and cutting them apart again. A text that is joined from fields without the separator is
cut into just these fields.
-/

namespace RowLoader

namespace Text

/-- A text with fields between separators. -/
def join (p : Separator) (fields : List (List Char)) : List Char :=
  p.chars.intercalate fields

theorem join_singleton (p : Separator) (s : List Char) : join p [s] = s := by
  simp [join, List.intercalate]

theorem join_cons_cons (p : Separator) (s t : List Char) (rest : List (List Char)) :
    join p (s :: t :: rest) = s ++ p.chars ++ join p (t :: rest) := by
  simp [join, List.intercalate]

section

variable {p : Separator} (single : p.tail = [])
include single

theorem splitFrom_cons_of_ne {c : Char} (other : p.head ≠ c) (r : List Char) :
    splitFrom p 0 (c :: r) = consField c (splitFrom p 0 r) := by
  rw [splitFrom, Separator.chars, single]
  simp [other]

theorem splitFrom_append {s : List Char} (free : p.head ∉ s) {r f : List Char}
    {fs : List (List Char)} (cut : splitFrom p 0 r = f :: fs) :
    splitFrom p 0 (s ++ r) = (s ++ f) :: fs := by
  induction s with
  | nil => exact cut
  | cons c rest ih =>
      simp only [List.mem_cons, not_or] at free
      rw [List.cons_append, splitFrom_cons_of_ne single free.1, ih free.2]
      rfl

theorem splitFrom_separator (r : List Char) :
    splitFrom p 0 (p.head :: r) = [] :: splitFrom p 0 r := by
  rw [splitFrom, Separator.chars, single]
  simp

/-- Fields without the separator are what their text is cut into. -/
theorem split_join {fields : List (List Char)} (some : fields ≠ [])
    (free : ∀ f ∈ fields, p.head ∉ f) : split p (join p fields) = fields := by
  unfold split
  induction fields with
  | nil => exact absurd rfl some
  | cons s rest ih =>
      have here := free s List.mem_cons_self
      cases rest with
      | nil =>
          have ended : splitFrom p 0 [] = [[]] := rfl
          simpa [join_singleton] using splitFrom_append single here ended
      | cons t rest =>
          have later := ih (List.cons_ne_nil t rest) fun f member =>
            free f (List.mem_cons_of_mem _ member)
          have cut := splitFrom_append single here
            ((splitFrom_separator single (join p (t :: rest))).trans (by rw [later]))
          simpa [join_cons_cons, Separator.chars, single] using cut

end

theorem mem_join_cons_cons (p : Separator) (s t : List Char) (rest : List (List Char)) :
    p.head ∈ join p (s :: t :: rest) := by
  rw [join_cons_cons]
  simp [Separator.chars]

theorem mem_join {p : Separator} {fields : List (List Char)} {c : Char} (member : c ∈ join p fields) :
    c ∈ p.chars ∨ ∃ f ∈ fields, c ∈ f := by
  induction fields with
  | nil => cases member
  | cons s rest ih =>
      cases rest with
      | nil => exact .inr ⟨s, List.mem_cons_self, by rwa [join_singleton] at member⟩
      | cons t rest =>
          rw [join_cons_cons, List.mem_append, List.mem_append] at member
          rcases member with (first | between) | later
          · exact .inr ⟨s, List.mem_cons_self, first⟩
          · exact .inl between
          · exact (ih later).imp id fun ⟨f, inside, there⟩ =>
              ⟨f, List.mem_cons_of_mem _ inside, there⟩

theorem dropWhile_eq_self {p : Char → Bool} {s : List Char}
    (h : ∀ c, s.head? = some c → p c = false) : s.dropWhile p = s := by
  cases s with
  | nil => rfl
  | cons c rest => rw [List.dropWhile_cons_of_neg (by simp [h c rfl])]

theorem head?_trimChars {s : List Char} {c : Char} (h : (trimChars s).head? = some c) :
    isBlank c = false := by
  obtain ⟨tail, rest⟩ : ∃ tail, s.dropWhile isBlank = trimChars s ++ tail := by
    refine ⟨((s.dropWhile isBlank).reverse.takeWhile isBlank).reverse, ?_⟩
    unfold trimChars trimBy dropTail
    rw [← List.reverse_append, List.takeWhile_append_dropWhile, List.reverse_reverse]
  have first := List.head?_dropWhile_not isBlank s
  cases shown : trimChars s with
  | nil =>
      rw [shown] at h
      cases h
  | cons d rest' =>
      rw [shown] at h
      cases h
      rw [rest, shown] at first
      simpa using first

theorem trimChars_trimChars (s : List Char) : trimChars (trimChars s) = trimChars s := by
  have front : (trimChars s).dropWhile isBlank = trimChars s :=
    dropWhile_eq_self fun c => head?_trimChars
  have back : (trimChars s).reverse.dropWhile isBlank = (trimChars s).reverse :=
    dropWhile_eq_self fun c h => getLast?_trimChars (by rwa [List.head?_reverse] at h)
  conv_lhs => unfold trimChars trimBy dropTail
  change (((trimChars s).dropWhile isBlank).reverse.dropWhile isBlank).reverse = _
  rw [front, back, List.reverse_reverse]

section

variable {p : Char → Bool} {c : Char} (solid : p c = false)
include solid

theorem dropWhile_append_solid (s rest : List Char) :
    (s ++ c :: rest).dropWhile p = s.dropWhile p ++ c :: rest := by
  induction s with
  | nil => simp [solid]
  | cons d later ih =>
      by_cases passed : p d = true
      · simp [passed, ih]
      · simp [passed]

theorem dropTail_append_solid (s rest : List Char) :
    dropTail p (s ++ c :: rest) = s ++ c :: dropTail p rest := by
  simp [dropTail, dropWhile_append_solid solid]

theorem trimBy_append_solid (s rest : List Char) :
    trimBy p (s ++ c :: rest) = s.dropWhile p ++ c :: dropTail p rest := by
  rw [trimBy, dropWhile_append_solid solid, dropTail_append_solid solid]

theorem mem_trimBy {s : List Char} (member : c ∈ s) : c ∈ trimBy p s := by
  obtain ⟨before, after, rfl⟩ := List.append_of_mem member
  rw [trimBy_append_solid solid]
  exact List.mem_append_right _ List.mem_cons_self

end

theorem toList_trim (s : String) : (trim s).toList = trimChars s.toList := String.toList_ofList

end Text

namespace Source

open RowLoader.Text

def joined (p : Separator) (cells : List String) : String :=
  String.ofList (join p (cells.map String.toList))

theorem mem_joined {p : Separator} {cells : List String} {c : Char}
    (member : c ∈ (joined p cells).toList) : c ∈ p.chars ∨ ∃ cell ∈ cells, c ∈ cell.toList := by
  unfold joined at member
  rw [String.toList_ofList] at member
  refine (mem_join member).imp id ?_
  rintro ⟨f, inside, there⟩
  obtain ⟨cell, here, rfl⟩ := List.mem_map.mp inside
  exact ⟨cell, here, there⟩

theorem mem_joined_several {p : Separator} {cells : List String} (several : 2 ≤ cells.length) :
    p.head ∈ (joined p cells).toList := by
  match cells, several with
  | s :: t :: rest, _ =>
      unfold joined
      rw [String.toList_ofList]
      exact mem_join_cons_cons p _ _ _

theorem split_joined {p : Separator} (single : p.tail = []) {cells : List String}
    (some : cells ≠ []) (free : ∀ cell ∈ cells, p.head ∉ cell.toList) :
    split p (joined p cells).toList = cells.map String.toList := by
  unfold joined
  rw [String.toList_ofList]
  refine split_join single ?_ ?_
  · simpa using some
  · simpa using free

theorem cellsOf_joined {p : Separator} (single : p.tail = []) {cells : List String}
    (some : cells ≠ []) (free : ∀ cell ∈ cells, p.head ∉ cell.toList) :
    cellsOf p (joined p cells) = cells.map trim := by
  unfold cellsOf
  rw [split_joined single some free, List.map_map]
  rfl

end Source

end RowLoader
