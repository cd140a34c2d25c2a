import Mathlib.Data.List.Forall2
import RowLoader.Proofs.Joining

/-!
Names of a token as pieces of it. Whatever reading a token makes of it, the names of the field stand in
the trimmed token one behind the other, each without a gap: reading cuts a text into pieces, takes
characters away at their ends and drops pieces, but never moves any.
-/

namespace RowLoader

namespace Text

/-- Pieces that stand in a text in their order, none reaching into another. -/
inductive InOrder : List (List Char) → List Char → Prop
  | none (s : List Char) : InOrder [] s
  | piece (gap p : List Char) {ps : List (List Char)} {s : List Char} :
      InOrder ps s → InOrder (p :: ps) (gap ++ p ++ s)

namespace InOrder

variable {ps qs : List (List Char)} {p s t : List Char}

theorem behind (gap : List Char) (h : InOrder ps s) : InOrder ps (gap ++ s) := by
  cases h with
  | none => exact .none _
  | piece before p later => simpa using piece (gap ++ before) p later

theorem append (first : InOrder ps s) (second : InOrder qs t) : InOrder (ps ++ qs) (s ++ t) := by
  induction first with
  | none s => exact second.behind s
  | piece gap p _ ih => simpa using piece gap p ih

theorem of_isInfix (h : InOrder ps s) (inside : s <:+: t) : InOrder ps t := by
  obtain ⟨before, after, rfl⟩ := inside
  simpa using (h.behind before).append (none after)

theorem single (inside : p <:+: s) : InOrder [p] s := by
  have alone : InOrder [p] p := by simpa using piece [] p (none [])
  exact alone.of_isInfix inside

/-- The first piece may give way to pieces of its own. -/
theorem inside_first (h : InOrder (p :: ps) s) (within : InOrder qs p) : InOrder (qs ++ ps) s := by
  cases h with
  | piece gap _ later => exact (within.behind gap).append later

theorem flatten (h : InOrder ps s) {finer : List (List (List Char))}
    (each : List.Forall₂ InOrder finer ps) : InOrder finer.flatten s := by
  induction h generalizing finer with
  | none s =>
      cases each
      exact .none s
  | piece gap p _ ih =>
      cases each with
      | cons within rest => exact (piece gap p (ih rest)).inside_first within

theorem isInfix_of_mem (h : InOrder ps s) (member : p ∈ ps) : p <:+: s := by
  induction h with
  | none => cases member
  | piece gap q _ ih =>
      cases member with
      | head => exact List.infix_append _ _ _
      | tail _ later => exact (ih later).trans (List.suffix_append _ _).isInfix

end InOrder

theorem dropTail_isPrefix (p : Char → Bool) (s : List Char) : dropTail p s <+: s := by
  rw [dropTail, ← List.reverse_suffix, List.reverse_reverse]
  exact List.dropWhile_suffix p

theorem trimChars_isInfix (s : List Char) : trimChars s <:+: s :=
  (dropTail_isPrefix isBlank _).isInfix.trans (List.dropWhile_suffix isBlank).isInfix

/-- Behind the characters that are passed over the first field begins, and the others follow. -/
theorem splitFrom_inOrder (p : Separator) (k : Nat) (s : List Char) :
    ∃ f fs rest, splitFrom p k s = f :: fs ∧ s.drop k = f ++ rest ∧ InOrder fs rest := by
  fun_induction splitFrom p k s with
  | case1 => exact ⟨[], [], [], rfl, by simp, .none []⟩
  | case2 k c rest ih => simpa using ih
  | case3 c rest _ ih =>
      obtain ⟨f, fs, left, cut, there, later⟩ := ih
      have fields : InOrder (f :: fs) (rest.drop p.tail.length) := by
        rw [there]
        exact .piece [] f later
      refine ⟨[], _, c :: rest, rfl, rfl, ?_⟩
      rw [cut]
      exact fields.of_isInfix ((List.drop_suffix _ rest).trans (List.suffix_cons c rest)).isInfix
  | case4 c rest _ ih =>
      obtain ⟨f, fs, left, cut, there, later⟩ := ih
      refine ⟨c :: f, fs, left, ?_, ?_, later⟩
      · rw [cut]
        rfl
      · simpa using there

theorem split_inOrder (p : Separator) (s : List Char) : InOrder (split p s) s := by
  obtain ⟨f, fs, rest, cut, there, later⟩ := splitFrom_inOrder p 0 s
  rw [List.drop_zero] at there
  rw [split, cut, there]
  exact .piece [] f later

end Text

namespace Header

open RowLoader.Text

theorem nonBlank?_inOrder (s : List Char) :
    InOrder ((nonBlank? s).toList.map String.toList) s := by
  cases found : nonBlank? s with
  | none => exact .none s
  | some t =>
      rw [nonBlank?_some found]
      simpa using InOrder.single (trimChars_isInfix s)

theorem segments_inOrder (s : List Char) : InOrder ((segments s).map String.toList) s := by
  have each := (split_inOrder ⟨'>', []⟩ s).flatten (List.forall₂_map_left_iff.mpr
    (List.forall₂_same.mpr fun f _ => nonBlank?_inOrder f))
  rwa [← List.flatMap_def, ← List.map_flatMap, ← List.filterMap_eq_flatMap_toList] at each

theorem takeKeyMark_isInfix (s : List Char) : (takeKeyMark s).2 <:+: s := by
  unfold takeKeyMark
  split
  · exact (trimChars_isInfix _).trans (List.take_prefix _ s).isInfix
  · exact List.infix_rfl

theorem bracketIn?_inOrder {s name inside : List Char} (h : bracketIn? s = some (name, inside)) :
    InOrder [name, inside] s := by
  unfold bracketIn? at h
  split at h
  · cases h
  · rename_i c rest
    split at h
    · rename_i sign d inner opened
      split at h
      · cases h
        have whole : c :: rest = [] ++ (c :: rest.takeWhile (· ≠ '[')) ++
            ([sign] ++ (d :: inner.takeWhile (· ≠ ']')) ++ inner.dropWhile (· ≠ ']')) := by
          simp only [List.nil_append, List.cons_append, List.takeWhile_append_dropWhile, ← opened]
        rw [whole]
        exact .piece [] _ (.piece [sign] _ (.none _))
      · cases h
    · cases h

theorem takeLookup_inOrder (s : List Char) :
    InOrder ((takeLookup s).1 :: (takeLookup s).2.toList.map String.toList) s := by
  unfold takeLookup
  split
  · exact .single List.infix_rfl
  · rename_i name inside found
    obtain ⟨line, member, bracket⟩ := List.exists_of_findSome?_eq_some found
    have both : InOrder [name, inside] s :=
      (bracketIn?_inOrder bracket).of_isInfix ((split_inOrder _ s).isInfix_of_mem member)
    simpa using both.flatten (.cons (.single (trimChars_isInfix name))
      (.cons (nonBlank?_inOrder inside) .nil))

/-- What a trimmed token is read as: the whole token where nothing is left of a path, and otherwise the
path, the look-up and the mark that were taken off. -/
inductive ReadAs (token : String) (position : Int) : Field → Prop
  | whole : ReadAs token position ⟨token, [], token, none, false, position⟩
  | parts {isKey : Bool} {body front : List Char} {lookup : Option String} {qualifiers : List String}
      {target : String} :
      takeKeyMark token.toList = (isKey, body) → takeLookup body = (front, lookup) →
      segments front = qualifiers ++ [target] →
      ReadAs token position ⟨token, qualifiers, target, lookup, isKey, position⟩

theorem readAs_read (text : Option String) (position : Int) :
    ReadAs (trim (text.getD "")) position (Field.read text position) := by
  have token : String.ofList (trimChars (text.getD "").toList) = trim (text.getD "") := rfl
  have letters := toList_trim (text.getD "")
  unfold Field.read
  dsimp only
  rw [token, ← letters]
  rcases marked : takeKeyMark (trim (text.getD "")).toList with ⟨isKey, body⟩
  rcases looked : takeLookup body with ⟨front, lookup⟩
  dsimp only
  cases parts : (segments front).reverse with
  | nil => exact .whole
  | cons target qualifiers =>
      refine .parts marked looked ?_
      rw [← List.reverse_cons, ← parts, List.reverse_reverse]

/-- The names of a path and then the name of a look-up stand in the token. -/
theorem ReadAs.inOrder {token : String} {position : Int} {f : Field}
    (h : ReadAs token position f) :
    InOrder ((f.path ++ f.lookup.toList).map String.toList) token.toList := by
  cases h with
  | whole => simpa [Field.path] using InOrder.single (List.infix_refl token.toList)
  | @parts isKey body front _ _ _ marked looked path =>
      have named := takeLookup_inOrder body
      have inside := takeKeyMark_isInfix token.toList
      rw [looked] at named
      rw [marked] at inside
      rw [Field.path, ← path, List.map_append]
      exact (named.inside_first (segments_inOrder front)).of_isInfix inside

theorem read_isInfix (token : String) (position : Int) :
    (∀ name ∈ (Field.read (some token) position).path, name.toList <:+: (trim token).toList) ∧
      ∀ name ∈ (Field.read (some token) position).lookup, name.toList <:+: (trim token).toList := by
  have names := fun name : String =>
    (readAs_read (some token) position).inOrder.isInfix_of_mem (p := name.toList)
  simp only [List.mem_map, List.mem_append, Option.mem_toList, Option.getD_some] at names
  exact ⟨fun name member => names name ⟨name, .inl member, rfl⟩,
    fun name member => names name ⟨name, .inr member, rfl⟩⟩

theorem withoutIdSuffix_isInfix (name : String) :
    (Field.withoutIdSuffix name).toList <:+: name.toList := by
  unfold Field.withoutIdSuffix
  split
  · rw [String.toList_ofList]
    exact (List.take_prefix _ _).isInfix
  · exact List.infix_rfl

/-- The table that a look-up searches is named in the trimmed token as well. -/
theorem lookupTable_isInfix (token : String) (position : Int) :
    ∀ name ∈ (Field.read (some token) position).lookupTable, name.toList <:+: (trim token).toList := by
  obtain ⟨path, _⟩ := read_isInfix token position
  generalize Field.read (some token) position = f at path ⊢
  intro name named
  obtain ⟨column, _, same⟩ := Option.map_eq_some_iff.mp named
  cases last : f.qualifiers.getLast? with
  | none =>
      rw [last] at same
      rw [← same]
      exact (withoutIdSuffix_isInfix f.target).trans (path f.target (by simp [Field.path]))
  | some table =>
      rw [last] at same
      rw [← same]
      exact path table (List.mem_append_left _ (List.mem_of_getLast? last))

end Header

end RowLoader
