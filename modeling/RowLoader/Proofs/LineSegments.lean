import RowLoader.Proofs.Layout
import RowLoader.Proofs.MalformedText

/-!
Bytes and text read alike. A text falls into segments between its line boundaries in exactly one way.
The lines that are read, from the text or from its bytes, are those of its segments that hold more than
blanks, where one leading byte order mark does not count.
-/

namespace RowLoader

namespace Text

/-- What stands between two segments: one character that is a line boundary, or carriage return and line
feed together. -/
inductive Boundary : List Char → Prop where
  | single {c : Char} (boundary : isLineBoundary c = true) : Boundary [c]
  | returnFeed : Boundary ['\r', '\n']

/-- A text and its segments between consecutive line boundaries, the ones before the first boundary and
behind the last included. A carriage return is no boundary by itself where a line feed follows. -/
inductive Segmented : List Char → List (List Char) → Prop where
  | last {l : List Char} (free : ∀ c ∈ l, isLineBoundary c = false) : Segmented l [l]
  | next {l b s : List Char} {segments : List (List Char)}
      (free : ∀ c ∈ l, isLineBoundary c = false) (boundary : Boundary b)
      (apart : b = ['\r'] → s.head? ≠ some '\n') (rest : Segmented s segments) :
      Segmented (l ++ (b ++ s)) (l :: segments)

theorem Boundary.ends {b : List Char} (h : Boundary b) :
    (∃ c r, b = c :: r ∧ isLineBoundary c = true) ∧
      ∃ e, b.getLast? = some e ∧ isLineBoundary e = true := by
  cases h with
  | @single c boundary => exact ⟨⟨c, [], rfl, boundary⟩, c, rfl, boundary⟩
  | returnFeed => exact ⟨⟨'\r', ['\n'], rfl, by decide⟩, '\n', rfl, by decide⟩

theorem exists_segmented_cons {c : Char} (inner : isLineBoundary c = false) {s : List Char}
    {segments : List (List Char)} (h : Segmented s segments) :
    ∃ longer, Segmented (c :: s) longer := by
  cases h with
  | last free => exact ⟨_, .last (List.forall_mem_cons.mpr ⟨inner, free⟩)⟩
  | next free boundary apart rest =>
      exact ⟨_, .next (List.forall_mem_cons.mpr ⟨inner, free⟩) boundary apart rest⟩

theorem exists_segmented (s : List Char) : ∃ segments, Segmented s segments := by
  -- along the recursion of the reader, which leaves out one boundary or one character at a time
  induction s using linesOf.induct with
  | case1 => exact ⟨_, .last (by simp)⟩
  | case2 c boundary =>
      exact ⟨_, .next (l := []) (by simp) (.single boundary) (by simp) (.last (l := []) (by simp))⟩
  | case3 c inner => exact ⟨_, .last (by simpa using inner)⟩
  | case4 c d r both ih =>
      obtain ⟨rfl, rfl⟩ := both
      obtain ⟨segments, rest⟩ := ih
      exact ⟨_, .next (l := []) (by simp) .returnFeed (by simp) rest⟩
  | case5 c d r apart boundary ih =>
      obtain ⟨segments, rest⟩ := ih
      refine ⟨_, .next (l := []) (by simp) (.single boundary) ?_ rest⟩
      rintro single feed
      exact apart ⟨List.head_eq_of_cons_eq single, Option.some.inj feed⟩
  | case6 c d r _ inner ih =>
      obtain ⟨segments, rest⟩ := ih
      exact exists_segmented_cons (by simpa using inner) rest

/-- A text tells where its first segment ends. -/
theorem first_segment {l b s : List Char} (free : ∀ c ∈ l, isLineBoundary c = false)
    (boundary : Boundary b) :
    (l ++ (b ++ s)).takeWhile (fun c => !isLineBoundary c) = l ∧
      (l ++ (b ++ s)).dropWhile (fun c => !isLineBoundary c) = b ++ s := by
  obtain ⟨⟨c, r, rfl, start⟩, _⟩ := boundary.ends
  have inner : ∀ c ∈ l, (!isLineBoundary c) = true := fun c member => by simp [free c member]
  rw [List.takeWhile_append_of_pos inner, List.dropWhile_append_of_pos inner]
  simp [start]

/-- A text tells what its first boundary is. -/
theorem Boundary.cancel {b b' s s' : List Char} (h : Boundary b) (h' : Boundary b')
    (apart : b = ['\r'] → s.head? ≠ some '\n') (apart' : b' = ['\r'] → s'.head? ≠ some '\n')
    (same : b ++ s = b' ++ s') : b = b' ∧ s = s' := by
  cases h with
  | single =>
      cases h' with
      | single =>
          obtain ⟨rfl, rfl⟩ := List.cons.inj same
          exact ⟨rfl, rfl⟩
      | returnFeed =>
          obtain ⟨rfl, rfl⟩ := List.cons.inj same
          exact absurd rfl (apart rfl)
  | returnFeed =>
      cases h' with
      | single =>
          obtain ⟨rfl, rfl⟩ := List.cons.inj same
          exact absurd rfl (apart' rfl)
      | returnFeed => exact ⟨rfl, List.append_cancel_left same⟩

/-- A text falls into segments in one way only. -/
theorem Segmented.unique {s : List Char} {segments others : List (List Char)}
    (h : Segmented s segments) (h' : Segmented s others) : segments = others := by
  induction h generalizing others with
  | last free =>
      cases h' with
      | last => rfl
      | next _ boundary =>
          obtain ⟨⟨c, r, rfl, start⟩, _⟩ := boundary.ends
          have inner := free c (by simp)
          rw [start] at inner
          cases inner
  | @next l b s segments free boundary apart rest ih =>
      generalize whole : l ++ (b ++ s) = text at h'
      cases h' with
      | last free' =>
          obtain ⟨⟨c, r, rfl, start⟩, _⟩ := boundary.ends
          have inner := free' c (by simp [← whole])
          rw [start] at inner
          cases inner
      | @next l' b' s' others free' boundary' apart' rest' =>
          obtain ⟨before, behind⟩ := first_segment (s := s) free boundary
          obtain ⟨before', behind'⟩ := first_segment (s := s') free' boundary'
          rw [whole] at before behind
          obtain ⟨rfl, rfl⟩ := boundary.cancel boundary' apart apart' (behind.symm.trans behind')
          rw [← before, before', ih rest']

theorem linesOf_closed {l b : List Char} (free : ∀ c ∈ l, isLineBoundary c = false)
    (boundary : Boundary b) : linesOf (l ++ b) = [l] := by
  induction l with
  | nil =>
      cases boundary with
      | single boundary => exact linesOf_boundary boundary (by simp)
      | returnFeed => decide
  | cons c rest ih =>
      rw [List.cons_append, linesOf_cons (free c List.mem_cons_self),
        ih fun x member => free x (List.mem_cons_of_mem _ member)]
      rfl

theorem Segmented.filled_eq {s : List Char} {segments : List (List Char)} (h : Segmented s segments) :
    filled s = segments.filter fun l => !l.all isBlank := by
  induction h with
  | last free => exact filled_of_plain (.inr free)
  | @next l b s segments free boundary _ _ ih =>
      obtain ⟨_, e, ended, closing⟩ := boundary.ends
      have last : (l ++ b).getLast? = some e := by rw [List.getLast?_append, ended]; rfl
      rw [← List.append_assoc, filled_append last closing, ih, filled, linesOf_closed free boundary,
        ← List.filter_append, List.singleton_append]

end Text

namespace Source

open RowLoader.Text

theorem toList_toUTF8 (t : String) : t.toUTF8.data.toList = Utf8.encode t.toList := by
  calc t.toUTF8.data.toList = t.toList.utf8Encode.data.toList :=
        congrArg (·.data.toList) String.utf8Encode_toList.symm
    _ = t.toList.flatMap String.utf8EncodeChar := List.toList_data_toByteArray
    _ = Utf8.encode t.toList := by rw [Utf8.encode, funext Utf8.encodeChar_eq]

theorem dropMark_eq (s : List Char) :
    dropMark s = if s.head? = some '\uFEFF' then s.tail else s := by
  cases s with
  | nil => rfl
  | cons c r =>
      have mark : byteOrderMark = '\uFEFF' := rfl
      simp [dropMark, mark]

/-- A text and its bytes in UTF-8 give the same lines: in order and untrimmed, the segments between the
line boundaries of the text that have a character other than a blank. One byte order mark in front of the
text is left out, and no more than one. -/
theorem bytes_read_as_text (t : String) :
    ∃ segments : List (List Char),
      (∀ others, Segmented (if t.toList.head? = some '\uFEFF' then t.toList.tail else t.toList) others ↔
        others = segments) ∧
      filledLines t.toList =
        (segments.filter fun l => l.any fun c => !isBlank c).map String.ofList ∧
      linesOfBytes t.toUTF8.data.toList = .ok (filledLines t.toList) := by
  obtain ⟨segments, cut⟩ := exists_segmented (dropMark t.toList)
  refine ⟨segments, ?_, ?_, ?_⟩
  · intro others
    rw [← dropMark_eq]
    constructor
    · exact fun cut' => cut'.unique cut
    · rintro rfl
      exact cut
  · rw [filledLines_eq, cut.filled_eq]
    simp only [List.not_all_eq_any_not]
  · rw [toList_toUTF8]
    exact linesOfBytes_encode t.toList

/-- Of two marks the second belongs to the first line; a line of blanks is none. -/
example : filledLines "\uFEFF\uFEFFa\r\n \u2028\tb".toList = ["\uFEFFa", "\tb"] := by decide

end Source

end RowLoader
