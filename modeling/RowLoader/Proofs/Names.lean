import RowLoader.Proofs.Examination
import RowLoader.Proofs.WellFormed
import RowLoader.Complete

/-!
Names of columns. A name that may stand in a statement is one of ASCII, for which both upper cases are
the same; a target of a header is trimmed, so a statement means by it just what it is.
-/

namespace RowLoader

namespace Text

def IsAscii (s : String) : Prop :=
  ∀ c ∈ s.toList, c.toNat < 128

theorem isAscii_iff {s : String} :
    IsAscii s ↔ s.toList.all (fun c => decide (c.toNat < 128)) = true := by
  simp [IsAscii]

instance (s : String) : Decidable (IsAscii s) := decidable_of_iff _ isAscii_iff.symm

theorem IsAscii.append {a b : String} (first : IsAscii a) (second : IsAscii b) :
    IsAscii (a ++ b) := by
  intro c member
  rw [String.toList_append] at member
  exact (List.mem_append.mp member).elim (first c) (second c)

theorem upper_of_ascii {s : String} (ascii : IsAscii s) : upper s = asciiUpper s := by
  have each : ∀ l : List Char, (∀ c ∈ l, c.toNat < 128) → upperChars l = l.map Char.toUpper := by
    intro l
    induction l with
    | nil =>
        intro _
        rfl
    | cons c rest ih =>
        intro small
        have first : upperForm c = [c.toUpper] := by
          unfold upperForm
          rw [if_pos (small c List.mem_cons_self)]
        change upperForm c ++ upperChars rest = _
        rw [first, ih fun d later => small d (List.mem_cons_of_mem _ later)]
        rfl
  unfold upper asciiUpper
  rw [each s.toList ascii]

theorem sameName_iff_upper {a b : String} (asciiA : IsAscii a) (asciiB : IsAscii b) :
    sameName a b = true ↔ upper a = upper b := by
  rw [sameName_iff, upper_of_ascii asciiA, upper_of_ascii asciiB]

theorem getLast?_trimChars {s : List Char} {c : Char} (h : (trimChars s).getLast? = some c) :
    isBlank c = false := by
  unfold trimChars trimBy dropTail at h
  rw [List.getLast?_reverse] at h
  have first := List.head?_dropWhile_not isBlank (s.dropWhile isBlank).reverse
  rw [h] at first
  simpa using first

end Text

/-- The dictionary compares a name of ASCII up to the case of letters. -/
theorem Dictionary.namesAgree_upper {stored asked : String} (ascii : Text.IsAscii asked) :
    Dictionary.namesAgree stored (Text.upper asked) = Text.sameName stored asked := by
  unfold Dictionary.namesAgree Text.sameName
  rw [Text.upper_of_ascii ascii]

namespace Identifier

open RowLoader.Text

theorem isAscii_of_part {c : Char} (h : isPart c = true) : c.toNat < 128 := by
  simp only [isPart, isStart, Bool.or_eq_true, Bool.and_eq_true, decide_eq_true_eq, beq_iff_eq,
    Char.le_def] at h
  have bound : ∀ d : Char, c ≤ d → d.toNat < 128 → c.toNat < 128 := by
    intro d below small
    exact lt_of_le_of_lt (Char.le_def.mp below) small
  rcases h with ((⟨_, below⟩ | ⟨_, below⟩) | rfl) | ⟨_, below⟩
  · exact bound 'Z' below (by decide)
  · exact bound 'z' below (by decide)
  · decide
  · exact bound '9' below (by decide)

theorem isAscii_of_plain {name : String} (plain : isPlain name = true) : IsAscii name := by
  have word : ∀ c ∈ dropFinalFeed name.toList, c.toNat < 128 := by
    unfold isPlain at plain
    generalize dropFinalFeed name.toList = body at plain ⊢
    cases body with
    | nil => cases plain
    | cons c rest =>
        obtain ⟨start, parts⟩ := (Bool.and_eq_true _ _).mp plain
        intro d member
        rcases List.mem_cons.mp member with rfl | later
        · exact isAscii_of_part (by unfold isPart; rw [start]; rfl)
        · exact isAscii_of_part (List.all_eq_true.mp parts d later)
  intro c member
  unfold dropFinalFeed at word
  split at word
  · rename_i feed
    obtain ⟨body, whole⟩ := List.getLast?_eq_some_iff.mp feed
    rw [whole, List.dropLast_concat] at word
    rw [whole] at member
    rcases List.mem_append.mp member with inside | last
    · exact word c inside
    · rw [List.mem_singleton.mp last]
      decide
  · exact word c member

theorem bare_of_last {name : String} (h : name.toList.getLast? ≠ some '\n') : bare name = name := by
  unfold bare dropFinalFeed
  rw [if_neg h, String.ofList_toList]

theorem bare_trimmed (s : List Char) :
    bare (String.ofList (trimChars s)) = String.ofList (trimChars s) := by
  refine bare_of_last ?_
  intro feed
  rw [String.toList_ofList] at feed
  have blank := getLast?_trimChars feed
  revert blank
  decide

end Identifier

namespace Header

open RowLoader.Text RowLoader.Identifier

theorem nonBlank?_some {s : List Char} {t : String} (h : nonBlank? s = some t) :
    t = String.ofList (trimChars s) := by
  unfold nonBlank? at h
  cases found : trimChars s with
  | nil =>
      rw [found] at h
      cases h
  | cons c rest =>
      rw [found] at h
      exact (Option.some.inj h).symm

theorem bare_target_read (text : Option String) (position : Int) :
    bare (Field.read text position).target = (Field.read text position).target := by
  unfold Field.read
  dsimp only
  split
  · exact bare_trimmed _
  · rename_i target qualifiers parts
    have member : target ∈ segments (takeLookup (takeKeyMark (trimChars (text.getD "").toList)).2).1 := by
      rw [← List.mem_reverse, parts]
      exact List.mem_cons_self
    obtain ⟨s, _, shown⟩ := List.mem_filterMap.mp member
    rw [nonBlank?_some shown]
    exact bare_trimmed s

theorem bare_target {tokens : List (Option String)} {f : Field} (member : f ∈ read tokens) :
    bare f.target = f.target := by
  obtain ⟨i, found⟩ := List.getElem?_of_mem member
  rw [read, getElem?_readFrom] at found
  obtain ⟨token, _, rfl⟩ := Option.map_eq_some_iff.mp found
  exact bare_target_read token _

end Header

end RowLoader
