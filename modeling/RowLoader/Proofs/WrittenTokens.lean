import Mathlib.Data.List.Induction
import Mathlib.Data.List.TakeWhile
import RowLoader.Proofs.Joining
import RowLoader.Proofs.TokenPieces

/-!
Tokens that are written and read again. Around the names of a token there may be white space, and
around its segments empty ones besides; none of it reaches the field. Slashes may stand inside a name:
only the last two characters of the whole token count as its key mark, and no character but the letter
K, large or small, has an upper case that ends like one.
-/

namespace RowLoader

namespace Text

def keyMarks : List Char :=
  ['/', 'K']

theorem toNat_keyMark {c : Char} (mark : c ∈ keyMarks) : c.toNat = 47 ∨ c.toNat = 75 := by
  simp only [keyMarks, List.mem_cons, List.not_mem_nil, or_false] at mark
  rcases mark with rfl | rfl
  · exact .inl rfl
  · exact .inr rfl

theorem code_of_keyMark {n : Nat} (mark : Char.ofNat n ∈ keyMarks) : n = 47 ∨ n = 75 := by
  have code := toNat_keyMark mark
  by_cases valid : n.isValidChar
  · have same : (Char.ofNat n).toNat = n := by
      rw [Char.ofNat, dif_pos valid]
      rfl
    rwa [same] at code
  · have zero : (Char.ofNat n).toNat = 0 := by
      rw [Char.ofNat, dif_neg valid]
      rfl
    omega

theorem not_keyMark_of_shifted? {r : CaseRun} (member : r ∈ upperRuns) {n m : Nat}
    (moved : r.shifted? n = some m) : Char.ofNat m ∉ keyMarks := by
  have each : upperRuns.all (fun r => 75 < (r.first : Int) + r.shift ∨
      47 < (r.first : Int) + r.shift ∧ (r.last : Int) + r.shift < 75) = true := by decide
  have apart := of_decide_eq_true (List.all_eq_true.mp each r member)
  intro mark
  have code := code_of_keyMark mark
  unfold CaseRun.shifted? at moved
  split at moved
  · rename_i held
    cases moved
    omega
  · cases moved

theorem upperForm_ne_nil (c : Char) : upperForm c ≠ [] := by
  have filled : upperExpansions.all (fun e => !e.2.isEmpty) = true := by decide
  unfold upperForm caseForm
  split
  · simp
  · split
    · rename_i form found
      have given := List.all_eq_true.mp filled _ (mem_of_lookup found)
      intro none
      rw [List.map_eq_nil_iff] at none
      rw [none] at given
      cases given
    · simp

theorem ascii_of_keyMark {c d : Char} (member : d ∈ upperForm c) (mark : d ∈ keyMarks) :
    c.toNat < 128 := by
  have expansions : upperExpansions.all (fun e => e.2.all fun n => n ≠ 47 ∧ n ≠ 75) = true := by
    decide
  by_contra large
  unfold upperForm caseForm at member
  rw [if_neg large] at member
  split at member
  · rename_i form found
    obtain ⟨n, inside, rfl⟩ := List.mem_map.mp member
    have free := List.all_eq_true.mp expansions _ (mem_of_lookup found)
    have other := of_decide_eq_true (List.all_eq_true.mp free n inside)
    have code := code_of_keyMark mark
    omega
  · rw [List.mem_singleton] at member
    cases moved : upperRuns.findSome? (·.shifted? c.toNat) with
    | none =>
        have same : d = c := by simpa [moved] using member
        rw [same] at mark
        have code := toNat_keyMark mark
        omega
    | some m =>
        obtain ⟨r, inside, shifted⟩ := List.exists_of_findSome?_eq_some moved
        have same : d = Char.ofNat m := by simpa [moved] using member
        rw [same] at mark
        exact not_keyMark_of_shifted? inside shifted mark

/-- The letters of a key mark are those with its upper case. -/
theorem of_keyMark_mem_upperForm {c d : Char} (member : d ∈ upperForm c) (mark : d ∈ keyMarks) :
    (d = '/' → c = '/') ∧ (d = 'K' → c = 'K' ∨ c = 'k') := by
  have small := ascii_of_keyMark member mark
  have each : ∀ n < 128, ((Char.ofNat n).toUpper = '/' → Char.ofNat n = '/') ∧
      ((Char.ofNat n).toUpper = 'K' → Char.ofNat n = 'K' ∨ Char.ofNat n = 'k') := by decide
  have letters := each c.toNat small
  rw [Char.ofNat_toNat] at letters
  rw [upperForm, if_pos small, List.mem_singleton] at member
  rwa [← member] at letters

theorem exists_last_of_upperChars {s front : List Char} {d : Char}
    (ended : upperChars s = front ++ [d]) : ∃ body c, s = body ++ [c] ∧ d ∈ upperForm c := by
  induction s using List.reverseRecOn with
  | nil => simp [upperChars] at ended
  | append_singleton body c _ =>
      refine ⟨body, c, rfl, ?_⟩
      have whole : upperChars (body ++ [c]) = upperChars body ++ upperForm c := by simp [upperChars]
      have last := congrArg List.getLast? (whole.symm.trans ended)
      rw [List.getLast?_append_of_ne_nil _ (upperForm_ne_nil c), List.getLast?_concat] at last
      exact List.mem_of_getLast? last

end Text

namespace Header

open RowLoader.Text

/-- A text has a key mark when it ends in a slash and the letter K, large or small. -/
theorem hasKeyMark_iff {s : List Char} :
    hasKeyMark s = true ↔ ∃ body letter, s = body ++ ['/', letter] ∧ letter ∈ ['K', 'k'] := by
  unfold hasKeyMark
  rw [List.isSuffixOf_iff_suffix]
  constructor
  · rintro ⟨front, ended⟩
    have whole : upperChars s = (front ++ ['/']) ++ ['K'] := by simpa using ended.symm
    obtain ⟨most, letter, rfl, large⟩ := exists_last_of_upperChars whole
    have letters := (of_keyMark_mem_upperForm large (by decide)).2 rfl
    have form : upperForm letter = ['K'] := by rcases letters with rfl | rfl <;> rfl
    have parts : upperChars most ++ ['K'] = (front ++ ['/']) ++ ['K'] := by
      simpa [upperChars, form] using whole
    have before := List.append_cancel_right parts
    obtain ⟨body, slash, rfl, there⟩ := exists_last_of_upperChars before
    rw [(of_keyMark_mem_upperForm there (by decide)).1 rfl]
    exact ⟨body, letter, by simp, by simpa using letters⟩
  · rintro ⟨body, letter, rfl, member⟩
    have form : upperForm letter = ['K'] := by
      rcases List.mem_pair.mp member with rfl | rfl <;> rfl
    have slash : upperForm '/' = ['/'] := by decide
    refine ⟨upperChars body, ?_⟩
    simp [upperChars, form, slash]

end Header

namespace Text

theorem dropTail_of_all {p : Char → Bool} {s : List Char} (all : ∀ c ∈ s, p c = true) :
    dropTail p s = [] := by
  have reversed : s.reverse.dropWhile p = [] :=
    List.dropWhile_eq_nil_iff.mpr fun c member => all c (List.mem_reverse.mp member)
  rw [dropTail, reversed, List.reverse_nil]

theorem trimChars_dropWhile (s : List Char) : trimChars (s.dropWhile isBlank) = trimChars s := by
  have stopped : (s.dropWhile isBlank).dropWhile isBlank = s.dropWhile isBlank := by
    refine dropWhile_eq_self fun c first => ?_
    have solid := List.head?_dropWhile_not isBlank s
    rw [first] at solid
    simpa using solid
  rw [trimChars, trimBy, stopped, trimChars, trimBy]

theorem trimChars_concat {c : Char} (blank : isBlank c = true) (s : List Char) :
    trimChars (s ++ [c]) = trimChars s := by
  unfold trimChars trimBy
  rw [List.dropWhile_append]
  cases left : s.dropWhile isBlank with
  | nil => simp [blank]
  | cons d rest => simp [dropTail, blank]

theorem trimChars_around {before s after : List Char} (front : ∀ c ∈ before, isBlank c = true)
    (some : s ≠ []) (trimmed : trimChars s = s) (back : ∀ c ∈ after, isBlank c = true) :
    trimChars (before ++ s ++ after) = s := by
  have head : (s ++ after).dropWhile isBlank = s ++ after := by
    refine dropWhile_eq_self fun c first => ?_
    rw [List.head?_append_of_ne_nil _ some] at first
    exact head?_trimChars (by rwa [trimmed])
  have last : dropTail isBlank (s ++ after) = s := by
    obtain ⟨body, c, rfl⟩ : ∃ body c, s = body ++ [c] :=
      ⟨s.dropLast, s.getLast some, (List.dropLast_append_getLast some).symm⟩
    have solid : isBlank c = false := getLast?_trimChars (s := body ++ [c]) (by simp [trimmed])
    rw [List.append_assoc, List.singleton_append, dropTail_append_solid solid, dropTail_of_all back]
  rw [trimChars, trimBy, List.append_assoc, List.dropWhile_append_of_pos front, head, last]

theorem split_append {p : Separator} (single : p.tail = []) (s : List Char) {tail : List Char}
    (free : p.head ∉ tail) :
    ∃ front last, split p s = front ++ [last] ∧ split p (s ++ tail) = front ++ [last ++ tail] := by
  unfold split
  induction s with
  | nil =>
      have ended : splitFrom p 0 [] = [[]] := rfl
      refine ⟨[], [], rfl, ?_⟩
      simpa using splitFrom_append single free ended
  | cons c rest ih =>
      obtain ⟨front, last, before, behind⟩ := ih
      by_cases separator : p.head = c
      · subst separator
        refine ⟨[] :: front, last, ?_, ?_⟩
        · rw [splitFrom_separator single, before]
          rfl
        · rw [List.cons_append, splitFrom_separator single, behind]
          rfl
      · rw [List.cons_append, splitFrom_cons_of_ne single separator,
          splitFrom_cons_of_ne single separator, before, behind]
        cases front with
        | nil => exact ⟨[], c :: last, rfl, rfl⟩
        | cons f fs => exact ⟨(c :: f) :: fs, last, rfl, rfl⟩

end Text

namespace Header

open RowLoader.Text

theorem nonBlank?_trimChars {s t : List Char} (same : trimChars s = trimChars t) :
    nonBlank? s = nonBlank? t := by
  unfold nonBlank?
  rw [same]

theorem segments_dropWhile (s : List Char) : segments (s.dropWhile isBlank) = segments s := by
  induction s with
  | nil => rfl
  | cons c rest ih =>
      by_cases blank : isBlank c = true
      · rw [List.dropWhile_cons_of_pos blank, ih]
        have other : '>' ≠ c := by
          rintro rfl
          exact absurd blank (by decide)
        unfold segments split
        rw [splitFrom_cons_of_ne rfl other]
        cases cut : splitFrom ⟨'>', []⟩ 0 rest with
        | nil => exact absurd cut (splitFrom_ne_nil _ 0 rest)
        | cons f fs =>
            have same : nonBlank? (c :: f) = nonBlank? f := nonBlank?_trimChars (by
              rw [trimChars, trimBy, List.dropWhile_cons_of_pos blank, trimChars, trimBy])
            rw [consField, List.filterMap_cons, List.filterMap_cons, same]
      · rw [List.dropWhile_cons_of_neg blank]

theorem segments_dropTail (s : List Char) : segments (dropTail isBlank s) = segments s := by
  induction s using List.reverseRecOn with
  | nil => rfl
  | append_singleton body c ih =>
      by_cases blank : isBlank c = true
      · have shorter : dropTail isBlank (body ++ [c]) = dropTail isBlank body := by
          simp [dropTail, blank]
        have other : '>' ∉ [c] := by
          rw [List.mem_singleton]
          rintro rfl
          exact absurd blank (by decide)
        obtain ⟨front, last, before, behind⟩ := split_append (p := ⟨'>', []⟩) rfl body other
        have same : nonBlank? (last ++ [c]) = nonBlank? last :=
          nonBlank?_trimChars (trimChars_concat blank last)
        rw [shorter, ih, segments, segments, before, behind, List.filterMap_append,
          List.filterMap_append, List.filterMap_cons, List.filterMap_cons, same]
      · have solid : isBlank c = false := by simpa using blank
        rw [dropTail_append_solid solid]
        rfl

theorem segments_trimChars (s : List Char) : segments (trimChars s) = segments s := by
  rw [trimChars, trimBy, segments_dropTail, segments_dropWhile]

theorem bracket?_of_line {s : List Char} (line : '\n' ∉ s) : bracket? s = bracketIn? s := by
  have whole : split ⟨'\n', []⟩ s = [s] := by
    have cut := split_join (p := ⟨'\n', []⟩) rfl (List.cons_ne_nil s []) (by simpa using line)
    rwa [join_singleton] at cut
  rw [bracket?, whole, List.findSome?_singleton]

theorem bracketIn?_of_unopened {s : List Char} (free : '[' ∉ s) : bracketIn? s = none := by
  cases s with
  | nil => rfl
  | cons c rest =>
      have none : rest.dropWhile (· ≠ '[') = [] := by
        rw [List.dropWhile_eq_nil_iff]
        intro d member
        have other : d ≠ '[' := fun same => free (same ▸ List.mem_cons_of_mem c member)
        simpa using other
      rw [bracketIn?, none]

theorem bracketIn?_of_bracket {front inside : List Char} (first : front ≠ []) (free : '[' ∉ front)
    (filled : inside ≠ []) (closed : ']' ∉ inside) (rest : List Char) :
    bracketIn? (front ++ '[' :: (inside ++ ']' :: rest)) = some (front, inside) := by
  obtain ⟨c, before, rfl⟩ := List.exists_cons_of_ne_nil first
  obtain ⟨d, inner, rfl⟩ := List.exists_cons_of_ne_nil filled
  have outside : ∀ e ∈ before, decide (e ≠ '[') = true := fun e member =>
    decide_eq_true fun same => free (same ▸ List.mem_cons_of_mem c member)
  have within : ∀ e ∈ inner, (!decide (e = ']')) = true := by
    intro e member
    have other : e ≠ ']' := fun same => closed (same ▸ List.mem_cons_of_mem d member)
    simpa using other
  have taken : (inner ++ ']' :: rest).takeWhile (fun e => !decide (e = ']')) = inner := by
    rw [List.takeWhile_append_of_pos within]
    simp
  rw [List.cons_append, bracketIn?, List.dropWhile_append_of_pos outside,
    List.takeWhile_append_of_pos outside]
  simp [taken]

/-- The characters that part a token, and the line feed. -/
def signs : List Char :=
  ['>', '[', ']', '\n']

/-- A name that a token can hold: it is trimmed, and nothing in it parts a token. -/
structure Unbroken (name : String) : Prop where
  filled : name.toList ≠ []
  trimmed : trimChars name.toList = name.toList
  free : ∀ c ∈ signs, c ∉ name.toList

theorem unbroken_iff {name : String} : Unbroken name ↔ name.toList ≠ [] ∧
    trimChars name.toList = name.toList ∧ (signs.all fun c => c ∉ name.toList) = true := by
  refine ⟨fun ⟨filled, trimmed, free⟩ => ⟨filled, trimmed, by simpa using free⟩, ?_⟩
  rintro ⟨filled, trimmed, free⟩
  exact ⟨filled, trimmed, by simpa using free⟩

instance (name : String) : Decidable (Unbroken name) :=
  decidable_of_iff _ unbroken_iff.symm

def Blanks (s : List Char) : Prop :=
  ∀ c ∈ s, isBlank c = true ∧ c ≠ '\n'

instance (s : List Char) : Decidable (Blanks s) :=
  List.decidableBAll _ s

/-- The parts of a path, between the signs >: names with white space around them, and white space
alone. -/
inductive Parts : List String → List (List Char) → Prop
  | ended : Parts [] []
  | gap {names s parts} (blanks : Blanks s) (later : Parts names parts) : Parts names (s :: parts)
  | name {names n before after parts} (unbroken : Unbroken n) (front : Blanks before)
      (back : Blanks after) (later : Parts names parts) :
      Parts (n :: names) ((before ++ n.toList ++ after) :: parts)

/-- What follows a path: nothing, or a bracket with the name of a look-up, and behind it white space and
signs >. -/
inductive Bracket : Option String → List Char → Prop
  | absent : Bracket none []
  | name {n before after rest} (unbroken : Unbroken n) (front : Blanks before)
      (back : Blanks after) (behind : ∀ c ∈ rest, c = '>' ∨ isBlank c = true ∧ c ≠ '\n') :
      Bracket (some n) ('[' :: (before ++ n.toList ++ after ++ ']' :: rest))

/-- The end of a token: nothing, or the key mark and white space. -/
inductive Mark : Bool → List Char → Prop
  | absent : Mark false []
  | key {letter after} (known : letter ∈ ['K', 'k']) (back : Blanks after) :
      Mark true ('/' :: letter :: after)

/-- A token that is written for a path, a look-up and a key mark. -/
inductive Written (names : List String) (lookup : Option String) (isKey : Bool) : List Char → Prop
  | laid {parts bracket mark} (path : Parts names parts) (named : Bracket lookup bracket)
      (marked : Mark isKey mark) : Written names lookup isKey (join ⟨'>', []⟩ parts ++ bracket ++ mark)

theorem Blanks.all {s : List Char} (blanks : Blanks s) : ∀ c ∈ s, isBlank c = true :=
  fun c member => (blanks c member).1

theorem Blanks.free {s : List Char} (blanks : Blanks s) : ∀ c ∈ signs, c ∉ s := by
  intro c sign member
  obtain ⟨blank, line⟩ := blanks c member
  simp only [signs, List.mem_cons, List.not_mem_nil, or_false] at sign
  rcases sign with rfl | rfl | rfl | rfl
  · exact absurd blank (by decide)
  · exact absurd blank (by decide)
  · exact absurd blank (by decide)
  · exact line rfl

theorem nonBlank?_of_blanks {s : List Char} (blanks : Blanks s) : nonBlank? s = none := by
  have none : trimChars s = [] := by
    rw [trimChars, trimBy, List.dropWhile_eq_nil_iff.mpr blanks.all]
    rfl
  rw [nonBlank?, none]

section

variable {n : String} {before after : List Char} (unbroken : Unbroken n) (front : Blanks before)
  (back : Blanks after)
include unbroken front back

theorem free_of_name : ∀ c ∈ signs, c ∉ before ++ n.toList ++ after := by
  intro c sign
  simp [front.free c sign, unbroken.free c sign, back.free c sign]

theorem nonBlank?_of_name : nonBlank? (before ++ n.toList ++ after) = some n := by
  obtain ⟨c, rest, shape⟩ := List.exists_cons_of_ne_nil unbroken.filled
  have trimmed := trimChars_around front.all unbroken.filled unbroken.trimmed back.all
  rw [nonBlank?, trimmed, shape]
  dsimp only
  rw [← shape, String.ofList_toList]

end

theorem Parts.free {names : List String} {parts : List (List Char)} (path : Parts names parts) :
    ∀ s ∈ parts, ∀ c ∈ signs, c ∉ s := by
  induction path with
  | ended => simp
  | gap blanks _ ih => exact List.forall_mem_cons.mpr ⟨blanks.free, ih⟩
  | name unbroken front back _ ih =>
      exact List.forall_mem_cons.mpr ⟨free_of_name unbroken front back, ih⟩

theorem Parts.named {names : List String} {parts : List (List Char)} (path : Parts names parts) :
    parts.filterMap nonBlank? = names := by
  induction path with
  | ended => rfl
  | gap blanks _ ih => rw [List.filterMap_cons, nonBlank?_of_blanks blanks, ih]
  | name unbroken front back _ ih =>
      rw [List.filterMap_cons, nonBlank?_of_name unbroken front back, ih]

section

variable {names : List String} {parts : List (List Char)} (path : Parts names parts)
  (filled : names ≠ [])
include path filled

theorem Parts.ne_nil : parts ≠ [] := by
  rintro rfl
  exact filled path.named.symm

theorem Parts.segments : segments (join ⟨'>', []⟩ parts) = names := by
  rw [Header.segments,
    split_join rfl (path.ne_nil filled) fun s member => path.free s member '>' (by decide), path.named]

omit filled in
theorem Parts.free_join : ∀ c ∈ ['[', ']', '\n'], c ∉ join ⟨'>', []⟩ parts := by
  intro c sign member
  rcases mem_join member with separator | ⟨s, inside, there⟩
  · rw [List.mem_singleton.mp separator] at sign
    exact absurd sign (by decide)
  · exact path.free s inside c (List.mem_cons_of_mem _ sign) there

end

theorem apart_of_letter {letter : Char} (known : letter ∈ ['K', 'k']) :
    letter ≠ '>' ∧ letter ≠ ']' ∧ isBlank letter = false := by
  rcases List.mem_pair.mp known with rfl | rfl <;> decide

theorem not_hasKeyMark_path {names : List String} {s : List Char} (path : segments s = names)
    (unmarked : ∀ n ∈ names.getLast?, hasKeyMark n.toList = false) :
    hasKeyMark (trimChars s) = false := by
  by_contra marked
  rw [Bool.not_eq_false, hasKeyMark_iff] at marked
  obtain ⟨body, letter, shape, known⟩ := marked
  obtain ⟨other, _, solid⟩ := apart_of_letter known
  have free : '>' ∉ ['/', letter] := by simp [other.symm]
  obtain ⟨front, last, _, cut⟩ := split_append (p := ⟨'>', []⟩) rfl body free
  have trimmed : trimChars (last ++ ['/', letter]) = last.dropWhile isBlank ++ ['/', letter] := by
    have ended : dropTail isBlank [letter] = [letter] := dropTail_append_solid solid [] []
    rw [trimChars, trimBy_append_solid (by decide), ended]
  have name : nonBlank? (last ++ ['/', letter]) =
      some (String.ofList (last.dropWhile isBlank ++ ['/', letter])) := by
    unfold nonBlank?
    rw [trimmed]
    cases last.dropWhile isBlank <;> rfl
  have names_eq : names = front.filterMap nonBlank? ++
      [String.ofList (last.dropWhile isBlank ++ ['/', letter])] := by
    rw [← path, ← segments_trimChars, shape, segments, cut, List.filterMap_append,
      List.filterMap_cons, name]
    rfl
  have refused :=
    unmarked (String.ofList (last.dropWhile isBlank ++ ['/', letter])) (by simp [names_eq])
  rw [String.toList_ofList, hasKeyMark_iff.mpr ⟨_, letter, rfl, known⟩] at refused
  cases refused

/-- What ends in a bracket has no key mark. -/
theorem not_hasKeyMark_bracket {s rest : List Char}
    (behind : ∀ c ∈ rest, c = '>' ∨ isBlank c = true ∧ c ≠ '\n') :
    hasKeyMark (trimChars (s ++ ']' :: rest)) = false := by
  by_contra marked
  rw [Bool.not_eq_false, hasKeyMark_iff] at marked
  obtain ⟨body, letter, shape, known⟩ := marked
  rw [trimChars, trimBy_append_solid (by decide)] at shape
  have ended := congrArg List.getLast? shape
  rw [List.getLast?_append_of_ne_nil _ (List.cons_ne_nil _ _),
    List.getLast?_append_of_ne_nil _ (List.cons_ne_nil _ _)] at ended
  have member : letter ∈ ']' :: dropTail isBlank rest := List.mem_of_getLast? ended
  obtain ⟨first, second, solid⟩ := apart_of_letter known
  rcases List.mem_cons.mp member with same | inside
  · exact second same
  · rcases behind letter ((dropTail_isPrefix isBlank rest).subset inside) with same | blank
    · exact first same
    · rw [solid] at blank
      cases blank.1

/-- A key mark at the end is taken off, whatever white space stands around it. -/
theorem takeKeyMark_key {letter : Char} (known : letter ∈ ['K', 'k']) (s : List Char)
    {after : List Char} (back : Blanks after) :
    takeKeyMark (trimChars (s ++ '/' :: letter :: after)) = (true, trimChars s) := by
  obtain ⟨_, _, solid⟩ := apart_of_letter known
  have ended : dropTail isBlank (letter :: after) = [letter] := by
    have kept := dropTail_append_solid solid [] after
    rwa [dropTail_of_all back.all] at kept
  have trimmed : trimChars (s ++ '/' :: letter :: after) =
      s.dropWhile isBlank ++ ['/', letter] := by
    rw [trimChars, trimBy_append_solid (by decide), ended]
  rw [trimmed, takeKeyMark, if_pos (hasKeyMark_iff.mpr ⟨_, letter, rfl, known⟩),
    List.take_left' (by simp), trimChars_dropWhile]

section

variable {names : List String} {lookup : Option String} {parts : List (List Char)}
  {bracket : List Char} (path : Parts names parts) (filled : names ≠ [])
  (named : Bracket lookup bracket)
include path filled named

/-- The look-up is taken off, and the names of the path are left. -/
theorem takeLookup_written :
    ∃ front, takeLookup (trimChars (join ⟨'>', []⟩ parts ++ bracket)) = (front, lookup) ∧
      segments front = names := by
  have segs := path.segments filled
  cases named with
  | absent =>
      rw [List.append_nil]
      have absent : ∀ c ∈ ['[', ']', '\n'], c ∉ trimChars (join ⟨'>', []⟩ parts) :=
        fun c sign member => path.free_join c sign ((trimChars_isInfix _).subset member)
      refine ⟨trimChars (join ⟨'>', []⟩ parts), ?_, by rw [segments_trimChars, segs]⟩
      rw [takeLookup, bracket?_of_line (absent '\n' (by decide)),
        bracketIn?_of_unopened (absent '[' (by decide))]
  | @name n before after rest unbroken front back behind =>
      have trimmed : trimChars (join ⟨'>', []⟩ parts ++
          '[' :: (before ++ n.toList ++ after ++ ']' :: rest)) =
          (join ⟨'>', []⟩ parts).dropWhile isBlank ++
            '[' :: ((before ++ n.toList ++ after) ++ ']' :: dropTail isBlank rest) := by
        rw [trimChars, trimBy_append_solid (by decide), dropTail_append_solid (by decide)]
      have left : segments ((join ⟨'>', []⟩ parts).dropWhile isBlank) = names := by
        rw [segments_dropWhile, segs]
      have remains : (join ⟨'>', []⟩ parts).dropWhile isBlank ≠ [] := by
        intro none
        rw [none] at left
        exact filled left.symm
      have outside : ∀ c ∈ ['[', ']', '\n'], c ∉ (join ⟨'>', []⟩ parts).dropWhile isBlank :=
        fun c sign member => path.free_join c sign ((List.dropWhile_sublist isBlank).subset member)
      have inside := free_of_name unbroken front back
      have line : '\n' ∉ (join ⟨'>', []⟩ parts).dropWhile isBlank ++
          '[' :: ((before ++ n.toList ++ after) ++ ']' :: dropTail isBlank rest) := by
        have later : '\n' ∉ dropTail isBlank rest := by
          intro member
          rcases behind '\n' ((dropTail_isPrefix isBlank rest).subset member) with same | blank
          · cases same
          · exact blank.2 rfl
        rw [List.mem_append, List.mem_cons, List.mem_append, List.mem_cons]
        rintro (member | same | member | same | member)
        · exact outside '\n' (by decide) member
        · cases same
        · exact inside '\n' (by decide) member
        · cases same
        · exact later member
      refine ⟨trimChars ((join ⟨'>', []⟩ parts).dropWhile isBlank), ?_, by
        rw [segments_trimChars, left]⟩
      rw [trimmed, takeLookup, bracket?_of_line line, bracketIn?_of_bracket remains
        (outside '[' (by decide)) (by simp [unbroken.filled]) (inside ']' (by decide))]
      dsimp only
      rw [nonBlank?_of_name unbroken front back]

/-- The key mark is taken off, and nothing else is taken for one. -/
theorem takeKeyMark_written {isKey : Bool} {mark : List Char} (marked : Mark isKey mark)
    (unmarked : lookup = none → isKey = false → ∀ n ∈ names.getLast?, hasKeyMark n.toList = false) :
    takeKeyMark (trimChars (join ⟨'>', []⟩ parts ++ bracket ++ mark)) =
      (isKey, trimChars (join ⟨'>', []⟩ parts ++ bracket)) := by
  cases marked with
  | key known back => exact takeKeyMark_key known _ back
  | absent =>
      rw [List.append_nil, takeKeyMark]
      refine if_neg ?_
      rw [Bool.not_eq_true]
      cases named with
      | absent =>
          rw [List.append_nil]
          exact not_hasKeyMark_path (path.segments filled) (unmarked rfl rfl)
      | @name n before after rest unbroken front back behind =>
          have shape : join ⟨'>', []⟩ parts ++ '[' :: (before ++ n.toList ++ after ++ ']' :: rest) =
              (join ⟨'>', []⟩ parts ++ '[' :: (before ++ n.toList ++ after)) ++ ']' :: rest := by
            simp
          rw [shape]
          exact not_hasKeyMark_bracket behind

end

theorem read_of_parts {token : String} {isKey : Bool} {body front : List Char}
    {lookup : Option String} {qualifiers : List String} {target : String}
    (marked : takeKeyMark (trimChars token.toList) = (isKey, body))
    (looked : takeLookup body = (front, lookup)) (path : segments front = qualifiers ++ [target])
    (position : Int) :
    Field.read (some token) position =
      ⟨trim token, qualifiers, target, lookup, isKey, position⟩ := by
  unfold Field.read
  rw [Option.getD_some]
  dsimp only
  rw [marked]
  dsimp only
  rw [looked]
  dsimp only
  rw [path, List.reverse_append]
  simp [trim]

theorem read_written {names : List String} {lookup : Option String} {isKey : Bool} {token : String}
    (written : Written names lookup isKey token.toList) {qualifiers : List String} {target : String}
    (path : names = qualifiers ++ [target])
    (unmarked : lookup = none → isKey = false → hasKeyMark target.toList = false) (position : Int) :
    Field.read (some token) position =
      ⟨trim token, qualifiers, target, lookup, isKey, position⟩ := by
  generalize letters : token.toList = s at written
  cases written with
  | @laid parts bracket mark laid named marked =>
      have filled : names ≠ [] := by simp [path]
      have key := takeKeyMark_written laid filled named marked (by simpa [path] using unmarked)
      obtain ⟨front, looked, left⟩ := takeLookup_written laid filled named
      rw [← letters] at key
      exact read_of_parts key looked (left.trans path) position

/-- A token is read as the path, the look-up and the key mark that it is written for, with white space
and empty segments around the names, and white space inside the bracket and behind the key mark. A
look-up then searches the last table of the path, or the one that the target means by its own name. -/
theorem read_written_token {names : List String} {lookup : Option String} {isKey : Bool}
    {token : String} (written : Written names lookup isKey token.toList) (filled : names ≠ [])
    (unmarked : lookup = none → isKey = false →
      ∀ n ∈ names.getLast?, ¬ ['/', 'K'] <:+ n.toList ∧ ¬ ['/', 'k'] <:+ n.toList)
    (position : Int) :
    (Field.read (some token) position).path = names ∧
    (Field.read (some token) position).lookup = lookup ∧
    (Field.read (some token) position).isKey = isKey ∧
    (lookup = none → (Field.read (some token) position).lookupTable = none) ∧
    (lookup ≠ none → ∀ front table target, names = front ++ [table, target] →
      (Field.read (some token) position).lookupTable = some table) ∧
    (lookup ≠ none → ∀ target, names = [target] →
      (Field.read (some token) position).lookupTable =
        some (if "_ID".toList <:+ upperChars target.toList then
          String.ofList (target.toList.take (target.toList.length - 3)) else target)) := by
  obtain ⟨qualifiers, target, path⟩ : ∃ qualifiers target, names = qualifiers ++ [target] :=
    ⟨names.dropLast, names.getLast filled, (List.dropLast_append_getLast filled).symm⟩
  have plain : lookup = none → isKey = false → hasKeyMark target.toList = false := by
    intro none other
    obtain ⟨large, small⟩ := unmarked none other target (by simp [path])
    by_contra marked
    rw [Bool.not_eq_false, hasKeyMark_iff] at marked
    obtain ⟨body, letter, shape, known⟩ := marked
    rcases List.mem_pair.mp known with rfl | rfl
    · exact large ⟨body, shape.symm⟩
    · exact small ⟨body, shape.symm⟩
  rw [read_written written path plain position]
  refine ⟨path.symm, rfl, rfl, ?_, ?_, ?_⟩
  · rintro rfl
    rfl
  · intro look front table last shape
    obtain ⟨column, rfl⟩ := Option.ne_none_iff_exists'.mp look
    have same : qualifiers = front ++ [table] := by
      have both : qualifiers ++ [target] = (front ++ [table]) ++ [last] := by simp [← path, shape]
      exact (List.append_inj' both rfl).1
    simp [Field.lookupTable, same]
  · intro look last shape
    obtain ⟨column, rfl⟩ := Option.ne_none_iff_exists'.mp look
    have alone : qualifiers = [] ∧ target = last := by
      have both : qualifiers ++ [target] = [] ++ [last] := by simp [← path, shape]
      simpa using List.append_inj' both rfl
    obtain ⟨rfl, rfl⟩ := alone
    simp [Field.lookupTable, Field.withoutIdSuffix]

/-- A token with a slash in a name, an empty segment, and white space around everything. -/
theorem scattered_token_is_read :
    (Field.read (some "\t> A/K>Part_ID [ Value ]>> /k ") 1).path = ["A/K", "Part_ID"] ∧
      (Field.read (some "\t> A/K>Part_ID [ Value ]>> /k ") 1).lookup = some "Value" ∧
      (Field.read (some "\t> A/K>Part_ID [ Value ]>> /k ") 1).isKey = true ∧
      (Field.read (some "\t> A/K>Part_ID [ Value ]>> /k ") 1).lookupTable = some "A/K" := by
  have shape : "\t> A/K>Part_ID [ Value ]>> /k ".toList =
      join ⟨'>', []⟩ [['\t'], [' '] ++ "A/K".toList ++ [], [] ++ "Part_ID".toList ++ [' ']] ++
        '[' :: ([' '] ++ "Value".toList ++ [' '] ++ ']' :: ">> ".toList) ++ '/' :: 'k' :: [' '] := by
    decide +kernel
  have written : Written ["A/K", "Part_ID"] (some "Value") true
      "\t> A/K>Part_ID [ Value ]>> /k ".toList := by
    rw [shape]
    have behind : (">> ".toList.all fun c => c = '>' ∨ isBlank c = true ∧ c ≠ '\n') = true := by
      decide
    have path : Parts ["A/K", "Part_ID"]
        [['\t'], [' '] ++ "A/K".toList ++ [], [] ++ "Part_ID".toList ++ [' ']] :=
      .gap (by decide) (.name (by decide +kernel) (by decide) (by decide)
        (.name (by decide +kernel) (by decide) (by decide) .ended))
    refine .laid path (.name (by decide +kernel) (by decide) (by decide) ?_)
      (.key (by decide) (by decide))
    exact fun c member => of_decide_eq_true (List.all_eq_true.mp behind c member)
  obtain ⟨path, lookup, isKey, _, table, _⟩ := read_written_token written (by decide) nofun 1
  exact ⟨path, lookup, isKey, table nofun [] "A/K" "Part_ID" rfl⟩

/-- With a sign > behind its key mark a token is no key, and the sign inside a bracket stays in the name
of the look-up. -/
theorem sign_around_mark_counts :
    ¬ ((Field.read (some "A/K>") 1).path = ["A"] ∧ (Field.read (some "A/K>") 1).isKey = true) ∧
      (Field.read (some "A/K>") 1).path = ["A/K"] ∧
      (Field.read (some "A[>Value]") 1).lookup = some ">Value" := by
  decide +kernel

end Header

end RowLoader
