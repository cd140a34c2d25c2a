import RowLoader.Proofs.Encoding
import RowLoader.Source

/-!
Where a text ends. Bytes are decoded where they are those of a text, and else refused at the end of
their longest prefix that is. Of a file with a byte order mark the prefix is counted from behind the
mark.
-/

namespace RowLoader

namespace Text.Utf8

def WellFormed (bytes : List UInt8) : Prop :=
  ∃ s : List Char, bytes = s.flatMap String.utf8EncodeChar

/-- The bytes of a character are those that UTF-8 prescribes. -/
theorem encodeChar_eq (c : Char) : encodeChar c = String.utf8EncodeChar c := by
  have valid : c.toNat < 0xD800 ∨ 0xDFFF < c.toNat ∧ c.toNat < 0x110000 := c.valid
  have value : c.val.toNat = c.toNat := rfl
  unfold encodeChar String.utf8EncodeChar
  simp only [value, Nat.le_iff_lt_add_one, Nat.reduceAdd]
  split_ifs with one two three
  · rfl
  · have lead : c.toNat / 64 % 32 = c.toNat / 64 := Nat.mod_eq_of_lt (by omega)
    rw [lead, Nat.add_comm 0xC0, Nat.add_comm 0x80]
  · have lead : c.toNat / 4096 % 16 = c.toNat / 4096 := Nat.mod_eq_of_lt (by omega)
    rw [lead, Nat.add_comm 0xE0, Nat.add_comm 0x80, Nat.add_comm 0x80]
  · have lead : c.toNat / 262144 % 8 = c.toNat / 262144 := Nat.mod_eq_of_lt (by omega)
    rw [lead, Nat.add_comm 0xF0, Nat.add_comm 0x80, Nat.add_comm 0x80, Nat.add_comm 0x80]

theorem wellFormed_iff {bytes : List UInt8} : WellFormed bytes ↔ ∃ s, bytes = encode s := by
  unfold WellFormed encode
  rw [funext encodeChar_eq]

theorem toNat_charOfNat {n : Nat} (valid : n < 0xD800 ∨ 0xDFFF < n ∧ n < 0x110000) :
    (Char.ofNat n).toNat = n := by
  unfold Char.ofNat
  rw [dif_pos valid]
  rfl

theorem mayFollow_iff {a b : UInt8} : mayFollow a b = true ↔
    (0x80 ≤ b.toNat ∧ b.toNat < 0xC0) ∧ (a.toNat = 0xE0 → 0xA0 ≤ b.toNat) ∧
      (a.toNat = 0xED → b.toNat < 0xA0) ∧ (a.toNat = 0xF0 → 0x90 ≤ b.toNat) ∧
      (a.toNat = 0xF4 → b.toNat < 0x90) := by
  simp [mayFollow, isContinuation, and_assoc, imp_iff_not_or]

theorem isContinuation_iff {b : UInt8} :
    isContinuation b = true ↔ 0x80 ≤ b.toNat ∧ b.toNat < 0xC0 := by
  simp [isContinuation]

section

variable {a b c d : UInt8}

theorem encodeChar_of_one (lead : a.toNat < 0x80) : encodeChar (Char.ofNat a.toNat) = [a] := by
  unfold encodeChar
  rw [toNat_charOfNat (by omega), if_pos lead, UInt8.ofNat_toNat]

theorem encodeChar_of_two (low : 0xC2 ≤ a.toNat) (high : a.toNat < 0xE0)
    (follows : mayFollow a b = true) :
    encodeChar (Char.ofNat ((a.toNat - 0xC0) * 64 + payload b)) = [a, b] := by
  obtain ⟨second, _⟩ := mayFollow_iff.mp follows
  unfold encodeChar payload
  generalize code : (a.toNat - 0xC0) * 64 + (b.toNat - 0x80) = n
  rw [toNat_charOfNat (by omega)]
  have first : 0xC0 + n / 64 = a.toNat := by omega
  have last : 0x80 + n % 64 = b.toNat := by omega
  dsimp only
  rw [if_neg (by omega), if_pos (by omega), first, last, UInt8.ofNat_toNat, UInt8.ofNat_toNat]

theorem encodeChar_of_three (low : 0xE0 ≤ a.toNat) (high : a.toNat < 0xF0)
    (follows : mayFollow a b = true) (third : isContinuation c = true) :
    encodeChar (Char.ofNat ((a.toNat - 0xE0) * 4096 + payload b * 64 + payload c)) = [a, b, c] := by
  obtain ⟨second, overlong, surrogate, _⟩ := mayFollow_iff.mp follows
  have third := isContinuation_iff.mp third
  unfold encodeChar payload
  generalize code : (a.toNat - 0xE0) * 4096 + (b.toNat - 0x80) * 64 + (c.toNat - 0x80) = n
  rw [toNat_charOfNat (by omega)]
  have first : 0xE0 + n / 4096 = a.toNat := by omega
  have middle : 0x80 + n / 64 % 64 = b.toNat := by omega
  have last : 0x80 + n % 64 = c.toNat := by omega
  dsimp only
  rw [if_neg (by omega), if_neg (by omega), if_pos (by omega), first, middle, last]
  simp only [UInt8.ofNat_toNat]

theorem encodeChar_of_four (low : 0xF0 ≤ a.toNat) (high : a.toNat < 0xF5)
    (follows : mayFollow a b = true) (third : isContinuation c = true)
    (fourth : isContinuation d = true) :
    encodeChar (Char.ofNat ((a.toNat - 0xF0) * 262144 + payload b * 4096 + payload c * 64 +
      payload d)) = [a, b, c, d] := by
  obtain ⟨second, _, _, short, past⟩ := mayFollow_iff.mp follows
  have third := isContinuation_iff.mp third
  have fourth := isContinuation_iff.mp fourth
  unfold encodeChar payload
  generalize code : (a.toNat - 0xF0) * 262144 + (b.toNat - 0x80) * 4096 + (c.toNat - 0x80) * 64 +
    (d.toNat - 0x80) = n
  rw [toNat_charOfNat (by omega)]
  have first : 0xF0 + n / 262144 = a.toNat := by omega
  have upper : 0x80 + n / 4096 % 64 = b.toNat := by omega
  have lower : 0x80 + n / 64 % 64 = c.toNat := by omega
  have last : 0x80 + n % 64 = d.toNat := by omega
  dsimp only
  rw [if_neg (by omega), if_neg (by omega), if_neg (by omega), first, upper, lower, last]
  simp only [UInt8.ofNat_toNat]

end

/-- Bytes begin with those of a character or are refused where they begin. -/
theorem decodeFrom_first (offset : Nat) (a : UInt8) (r : List UInt8) :
    (∃ c t, a :: r = encodeChar c ++ t) ∨
      ∃ f, decodeFrom offset (a :: r) = .error f ∧ f.offset = offset := by
  by_cases one : a.toNat < 0x80
  · exact .inl ⟨_, r, by rw [encodeChar_of_one one]; rfl⟩
  rw [decodeFrom.eq_def]
  dsimp only
  rw [if_neg one]
  by_cases start : (a.toNat < 0xC2 || 0xF5 ≤ a.toNat) = true
  · rw [if_pos start]
    exact .inr ⟨_, rfl, rfl⟩
  rw [if_neg start]
  have lead : 0xC2 ≤ a.toNat ∧ a.toNat < 0xF5 := by simpa using start
  -- one byte after the other either continues the character or is where the bytes are refused
  cases r with
  | nil => exact .inr ⟨_, rfl, rfl⟩
  | cons b r =>
      dsimp only
      cases follows : mayFollow a b with
      | false => exact .inr ⟨_, if_pos rfl, rfl⟩
      | true =>
          by_cases two : a.toNat < 0xE0
          · exact .inl ⟨_, r, by rw [encodeChar_of_two lead.1 two follows]; rfl⟩
          rw [if_neg (by simp), if_neg two]
          cases r with
          | nil => exact .inr ⟨_, rfl, rfl⟩
          | cons c r =>
              dsimp only
              cases third : isContinuation c with
              | false => exact .inr ⟨_, if_pos rfl, rfl⟩
              | true =>
                  by_cases three : a.toNat < 0xF0
                  · have first := encodeChar_of_three (by omega) three follows third
                    exact .inl ⟨_, r, by rw [first]; rfl⟩
                  rw [if_neg (by simp), if_neg three]
                  cases r with
                  | nil => exact .inr ⟨_, rfl, rfl⟩
                  | cons d r =>
                      dsimp only
                      cases fourth : isContinuation d with
                      | false => exact .inr ⟨_, if_pos rfl, rfl⟩
                      | true =>
                          have first := encodeChar_of_four (by omega) lead.2 follows third fourth
                          exact .inl ⟨_, r, by rw [first]; rfl⟩

theorem decodeFrom_encode_append (offset : Nat) (s : List Char) (r : List UInt8) :
    decodeFrom offset (encode s ++ r) =
      (decodeFrom (offset + (encode s).length) r).map (s ++ ·) := by
  induction s generalizing offset with
  | nil =>
      change decodeFrom offset r = (decodeFrom offset r).map ([] ++ ·)
      cases decodeFrom offset r <;> rfl
  | cons c rest ih =>
      have bytes : encode (c :: rest) = encodeChar c ++ encode rest := List.flatMap_cons
      rw [bytes, List.append_assoc, decodeFrom_encodeChar, ih, List.length_append, ← Nat.add_assoc]
      cases decodeFrom (offset + (encodeChar c).length + (encode rest).length) r <;> rfl

theorem encodeChar_length_pos (c : Char) : 0 < (encodeChar c).length := by
  unfold encodeChar
  dsimp only
  split_ifs <;> exact Nat.succ_pos _

/-- Bytes are those of a text and something behind it that is empty, or is refused where it
begins. -/
theorem decodeFrom_split (offset : Nat) (bytes : List UInt8) : ∃ s r, bytes = encode s ++ r ∧
    (r = [] ∨ ∃ f, decodeFrom (offset + (encode s).length) r = .error f ∧
      f.offset = offset + (encode s).length) := by
  match bytes with
  | [] => exact ⟨[], [], rfl, .inl rfl⟩
  | a :: rest =>
      rcases decodeFrom_first offset a rest with ⟨c, t, begins⟩ | refused
      · have shorter : t.length < (a :: rest).length := by
          rw [begins, List.length_append]
          have := encodeChar_length_pos c
          omega
        obtain ⟨s, r, rfl, ends⟩ := decodeFrom_split (offset + (encodeChar c).length) t
        have bytes : encode (c :: s) = encodeChar c ++ encode s := List.flatMap_cons
        refine ⟨c :: s, r, ?_, ?_⟩
        · rw [begins, bytes, List.append_assoc]
        · rwa [bytes, List.length_append, ← Nat.add_assoc]
      · exact ⟨[], a :: rest, rfl, .inr refused⟩
termination_by bytes.length
decreasing_by exact shorter

theorem le_offset {offset : Nat} {bytes : List UInt8} {f : Fault}
    (refused : decodeFrom offset bytes = .error f) : offset ≤ f.offset := by
  obtain ⟨s, r, rfl, rfl | ⟨g, fault, place⟩⟩ := decodeFrom_split offset bytes
  · rw [List.append_nil, decodeFrom_encode] at refused
    cases refused
  · rw [decodeFrom_encode_append, fault] at refused
    cases refused
    rw [place]
    exact Nat.le_add_right _ _

/-- The longest prefix that is well formed has so many bytes. -/
structure FormedTo (bytes : List UInt8) (n : Nat) : Prop where
  within : n ≤ bytes.length
  formed : WellFormed (bytes.take n)
  longest : ∀ m ≤ bytes.length, WellFormed (bytes.take m) → m ≤ n

theorem decode_eq_ok_iff {bytes : List UInt8} {s : List Char} :
    decode bytes = .ok s ↔ bytes = encode s := by
  constructor
  · intro decoded
    obtain ⟨t, r, rfl, rfl | ⟨f, fault, _⟩⟩ := decodeFrom_split 0 bytes
    · rw [List.append_nil, decode_encode] at decoded
      rw [List.append_nil, Except.ok.inj decoded]
    · rw [decode, decodeFrom_encode_append, fault] at decoded
      cases decoded
  · rintro rfl
    exact decode_encode s

theorem decode_error_iff {bytes : List UInt8} :
    (∃ f, decode bytes = .error f) ↔ ¬ WellFormed bytes := by
  constructor
  · rintro ⟨f, refused⟩ formed
    obtain ⟨s, text⟩ := wellFormed_iff.mp formed
    rw [decode_eq_ok_iff.mpr text] at refused
    cases refused
  · intro malformed
    cases decoded : decode bytes with
    | ok s => exact absurd (wellFormed_iff.mpr ⟨s, decode_eq_ok_iff.mp decoded⟩) malformed
    | error f => exact ⟨f, rfl⟩

/-- What is refused is refused at the end of its longest well-formed prefix. -/
theorem formedTo_of_decode {bytes : List UInt8} {f : Fault} (refused : decode bytes = .error f) :
    FormedTo bytes f.offset := by
  obtain ⟨s, r, rfl, ends⟩ := decodeFrom_split 0 bytes
  have place : f.offset = (encode s).length := by
    rcases ends with rfl | ⟨g, fault, place⟩
    · rw [List.append_nil, decode_encode] at refused
      cases refused
    · rw [decode, decodeFrom_encode_append, fault] at refused
      cases refused
      rw [place, Nat.zero_add]
  refine ⟨?_, wellFormed_iff.mpr ⟨s, ?_⟩, ?_⟩
  · rw [place, List.length_append]
    exact Nat.le_add_right _ _
  · rw [place, List.take_left]
  · intro m within prefixed
    obtain ⟨t, formed⟩ := wellFormed_iff.mp prefixed
    rw [← List.take_append_drop m (encode s ++ r), formed, decode, decodeFrom_encode_append] at refused
    cases later : decodeFrom (0 + (encode t).length) ((encode s ++ r).drop m) with
    | ok u =>
        rw [later] at refused
        cases refused
    | error g =>
        rw [later] at refused
        cases refused
        have reached := le_offset later
        rwa [← formed, List.length_take, Nat.min_eq_left within, Nat.zero_add] at reached

def markBytes : List UInt8 :=
  encodeChar byteOrderMark

theorem dropMark_append (r : List UInt8) : dropMark (markBytes ++ r) = r := rfl

theorem dropMark_of_unmarked {bytes : List UInt8} (bare : ¬ markBytes <+: bytes) :
    dropMark bytes = bytes := by
  unfold dropMark
  split
  · rename_i a b c r
    refine if_neg fun ⟨first, second, third⟩ => bare ⟨r, ?_⟩
    have a : a = 0xEF := UInt8.toNat_inj.mp first
    have b : b = 0xBB := UInt8.toNat_inj.mp second
    have c : c = 0xBF := UInt8.toNat_inj.mp third
    rw [a, b, c]
    rfl
  · rfl

theorem wellFormed_mark {r : List UInt8} : WellFormed (markBytes ++ r) ↔ WellFormed r := by
  rw [wellFormed_iff, wellFormed_iff]
  constructor
  · rintro ⟨s, text⟩
    refine ⟨Text.dropMark s, ?_⟩
    rw [← dropMark_encode, ← text, dropMark_append]
  · rintro ⟨s, rfl⟩
    exact ⟨byteOrderMark :: s, List.flatMap_cons.symm⟩

theorem wellFormed_dropMark {bytes : List UInt8} :
    WellFormed (dropMark bytes) ↔ WellFormed bytes := by
  by_cases mark : markBytes <+: bytes
  · obtain ⟨r, rfl⟩ := mark
    rw [dropMark_append, wellFormed_mark]
  · rw [dropMark_of_unmarked mark]

/-- A byte order mark in front makes the longest well-formed prefix longer by its bytes. -/
theorem FormedTo.behind_mark {r : List UInt8} {n : Nat} (located : FormedTo r n) :
    FormedTo (markBytes ++ r) (n + 3) := by
  have three : markBytes.length = 3 := rfl
  have behind : ∀ k, (markBytes ++ r).take (k + 3) = markBytes ++ r.take k := by
    intro k
    rw [Nat.add_comm, ← three, List.take_length_add_append]
  refine ⟨?_, ?_, ?_⟩
  · have := located.within
    rw [List.length_append, three]
    omega
  · rw [behind, wellFormed_mark]
    exact located.formed
  · intro m within formed
    rw [List.length_append, three] at within
    by_cases short : m < 3
    · omega
    · obtain ⟨k, rfl⟩ := Nat.exists_eq_add_of_le' (Nat.le_of_not_lt short)
      rw [behind, wellFormed_mark] at formed
      have := located.longest k (by omega) formed
      omega

end Text.Utf8

namespace Source

open RowLoader.Text

/-- A file is refused as text for what stands behind its byte order mark, if it has one. -/
theorem readLines_invalid_iff {path : String} {b : List UInt8} {offset : Int} {reason : String} :
    readLines path (.bytes b) = .error (.invalidSource path offset reason) ↔
      ∃ f, Utf8.decode (Utf8.dropMark b) = .error f ∧ offset = f.offset ∧ f.reason.text = reason := by
  unfold readLines linesOfBytes
  dsimp only
  cases Utf8.decode (Utf8.dropMark b) with
  | error f => simp [Except.map, eq_comm]
  | ok s =>
      dsimp only [Except.map]
      split <;> simp_all

/-- Bytes that are no text are refused, and only these, at a fault that is counted from behind a byte
order mark: of a file that begins with one the longest well-formed prefix is longer than the offset by
the three bytes of the mark, and of every other file it ends at the offset. -/
theorem invalid_text_located (path : String) (b : List UInt8) :
    ((∃ offset reason, readLines path (.bytes b) = .error (.invalidSource path offset reason)) ↔
      ¬ Utf8.WellFormed b) ∧
    ∀ offset reason, readLines path (.bytes b) = .error (.invalidSource path offset reason) →
      ∃ n : Nat, offset = n ∧ (¬ Utf8.markBytes <+: b → Utf8.FormedTo b n) ∧
        (Utf8.markBytes <+: b → Utf8.FormedTo b (n + 3)) := by
  constructor
  · rw [← Utf8.wellFormed_dropMark, ← Utf8.decode_error_iff]
    constructor
    · rintro ⟨offset, reason, refused⟩
      obtain ⟨f, fault, _⟩ := readLines_invalid_iff.mp refused
      exact ⟨f, fault⟩
    · rintro ⟨f, fault⟩
      exact ⟨f.offset, f.reason.text, readLines_invalid_iff.mpr ⟨f, fault, rfl, rfl⟩⟩
  · intro offset reason refused
    obtain ⟨f, fault, rfl, _⟩ := readLines_invalid_iff.mp refused
    have located := Utf8.formedTo_of_decode fault
    refine ⟨f.offset, rfl, ?_, ?_⟩
    · intro bare
      rwa [Utf8.dropMark_of_unmarked bare] at located
    · rintro ⟨r, rfl⟩
      exact located.behind_mark

/-- The letter A and a byte that begins no character. -/
theorem invalid_letter_located :
    readLines "parts" (.bytes [0x41, 0xFF]) =
        .error (.invalidSource "parts" 1 "invalid start byte") ∧
      Utf8.FormedTo [0x41, 0xFF] 1 := by
  have refused : readLines "parts" (.bytes [0x41, 0xFF]) =
      .error (.invalidSource "parts" 1 "invalid start byte") := by decide +kernel
  obtain ⟨n, one, bare, _⟩ := (invalid_text_located "parts" [0x41, 0xFF]).2 _ _ refused
  obtain rfl : n = 1 := by omega
  exact ⟨refused, bare (by decide)⟩

/-- Behind a byte order mark the same bytes are refused at the same offset, which is not where the
text ends in the file. -/
theorem mark_shifts_offset :
    readLines "parts" (.bytes (Utf8.markBytes ++ [0x41, 0xFF])) =
        .error (.invalidSource "parts" 1 "invalid start byte") ∧
      Utf8.FormedTo (Utf8.markBytes ++ [0x41, 0xFF]) 4 ∧
      ¬ Utf8.FormedTo (Utf8.markBytes ++ [0x41, 0xFF]) 1 := by
  have fault : Utf8.decode [0x41, 0xFF] = .error ⟨1, [0xFF], .badStart⟩ := by decide +kernel
  have located : Utf8.FormedTo (Utf8.markBytes ++ [0x41, 0xFF]) 4 :=
    (Utf8.formedTo_of_decode fault).behind_mark
  refine ⟨by decide +kernel, located, fun early => ?_⟩
  exact absurd (early.longest 4 located.within located.formed) (by decide)

end Source

end RowLoader
