import Mathlib.Data.List.Basic
import RowLoader.Text.Lines
import RowLoader.Text.Utf8

/-!
Encoding and decoding. The bytes of a text are well formed and are decoded into this text; a byte order
mark is in front of the bytes exactly where it is in front of the text.
-/

namespace RowLoader.Text

namespace Utf8

section

variable {a b c d : UInt8} (offset : Nat) (r : List UInt8)

theorem decodeFrom_one (lead : a.toNat < 0x80) :
    decodeFrom offset (a :: r) = (decodeFrom (offset + 1) r).map (Char.ofNat a.toNat :: ·) := by
  rw [decodeFrom.eq_def]
  dsimp only
  rw [if_pos lead]

theorem decodeFrom_two (low : 0xC2 ≤ a.toNat) (high : a.toNat < 0xE0)
    (follows : mayFollow a b = true) :
    decodeFrom offset (a :: b :: r) = (decodeFrom (offset + 2) r).map
      (Char.ofNat ((a.toNat - 0xC0) * 64 + payload b) :: ·) := by
  have start : (a.toNat < 0xC2 || 0xF5 ≤ a.toNat) = false := by simp; omega
  rw [decodeFrom.eq_def]
  dsimp only
  rw [if_neg (by omega), start, if_neg Bool.false_ne_true, if_neg (by simp [follows]), if_pos high]

theorem decodeFrom_three (low : 0xE0 ≤ a.toNat) (high : a.toNat < 0xF0)
    (follows : mayFollow a b = true) (third : isContinuation c = true) :
    decodeFrom offset (a :: b :: c :: r) = (decodeFrom (offset + 3) r).map
      (Char.ofNat ((a.toNat - 0xE0) * 4096 + payload b * 64 + payload c) :: ·) := by
  have start : (a.toNat < 0xC2 || 0xF5 ≤ a.toNat) = false := by simp; omega
  rw [decodeFrom.eq_def]
  dsimp only
  rw [if_neg (by omega), start, if_neg Bool.false_ne_true, if_neg (by simp [follows]),
    if_neg (by omega), if_neg (by simp [third]), if_pos high]

theorem decodeFrom_four (low : 0xF0 ≤ a.toNat) (high : a.toNat < 0xF5)
    (follows : mayFollow a b = true) (third : isContinuation c = true)
    (fourth : isContinuation d = true) :
    decodeFrom offset (a :: b :: c :: d :: r) = (decodeFrom (offset + 4) r).map
      (Char.ofNat ((a.toNat - 0xF0) * 262144 + payload b * 4096 + payload c * 64 + payload d) :: ·) := by
  have start : (a.toNat < 0xC2 || 0xF5 ≤ a.toNat) = false := by simp; omega
  rw [decodeFrom.eq_def]
  dsimp only
  rw [if_neg (by omega), start, if_neg Bool.false_ne_true, if_neg (by simp [follows]),
    if_neg (by omega), if_neg (by simp [third]), if_neg (by omega), if_neg (by simp [fourth])]

end

theorem toNat_ofNat {n : Nat} (small : n < 256) : (UInt8.ofNat n).toNat = n := by
  rw [UInt8.toNat_ofNat']
  exact Nat.mod_eq_of_lt small

theorem toNat_continuation (n : Nat) : (UInt8.ofNat (0x80 + n % 64)).toNat = 0x80 + n % 64 :=
  toNat_ofNat (by omega)

theorem isContinuation_ofNat (n : Nat) : isContinuation (UInt8.ofNat (0x80 + n % 64)) = true := by
  unfold isContinuation
  rw [toNat_continuation]
  simp
  omega

theorem payload_ofNat (n : Nat) : payload (UInt8.ofNat (0x80 + n % 64)) = n % 64 := by
  unfold payload
  rw [toNat_continuation]
  omega

theorem mayFollow_ofNat {lead : UInt8} {n : Nat} (overlong : lead.toNat = 0xE0 → 0x20 ≤ n % 64)
    (surrogate : lead.toNat = 0xED → n % 64 < 0x20) (short : lead.toNat = 0xF0 → 0x10 ≤ n % 64)
    (last : lead.toNat = 0xF4 → n % 64 < 0x10) :
    mayFollow lead (UInt8.ofNat (0x80 + n % 64)) = true := by
  unfold mayFollow
  rw [isContinuation_ofNat, toNat_continuation]
  simp
  omega

/-- The bytes of a character are decoded into it, whatever follows them. -/
theorem decodeFrom_encodeChar (offset : Nat) (c : Char) (r : List UInt8) :
    decodeFrom offset (encodeChar c ++ r) =
      (decodeFrom (offset + (encodeChar c).length) r).map (c :: ·) := by
  have valid : c.toNat < 0xD800 ∨ 0xDFFF < c.toNat ∧ c.toNat < 0x110000 := c.valid
  have whole : ∀ n, n = c.toNat → Char.ofNat n = c := by
    rintro n rfl
    exact Char.ofNat_toNat c
  unfold encodeChar
  dsimp only
  -- one case for each length; what the lead byte and the payloads carry adds up to the character
  split_ifs with one two three
  · have lead := toNat_ofNat (n := c.toNat) (by omega)
    rw [List.singleton_append, decodeFrom_one _ _ (by omega), whole _ lead]
    rfl
  · have lead := toNat_ofNat (n := 0xC0 + c.toNat / 64) (by omega)
    have code : (0xC0 + c.toNat / 64 - 0xC0) * 64 + c.toNat % 64 = c.toNat := by omega
    rw [List.cons_append, List.singleton_append, decodeFrom_two _ _ (by omega) (by omega)
      (mayFollow_ofNat (by omega) (by omega) (by omega) (by omega)), lead, payload_ofNat,
      whole _ code]
    rfl
  · have lead := toNat_ofNat (n := 0xE0 + c.toNat / 4096) (by omega)
    have code : (0xE0 + c.toNat / 4096 - 0xE0) * 4096 + c.toNat / 64 % 64 * 64 +
        c.toNat % 64 = c.toNat := by omega
    rw [List.cons_append, List.cons_append, List.singleton_append,
      decodeFrom_three _ _ (by omega) (by omega)
        (mayFollow_ofNat (by omega) (by omega) (by omega) (by omega)) (isContinuation_ofNat _),
      lead, payload_ofNat, payload_ofNat, whole _ code]
    rfl
  · have lead := toNat_ofNat (n := 0xF0 + c.toNat / 262144) (by omega)
    have code : (0xF0 + c.toNat / 262144 - 0xF0) * 262144 + c.toNat / 4096 % 64 * 4096 +
        c.toNat / 64 % 64 * 64 + c.toNat % 64 = c.toNat := by omega
    rw [List.cons_append, List.cons_append, List.cons_append, List.singleton_append,
      decodeFrom_four _ _ (by omega) (by omega)
        (mayFollow_ofNat (by omega) (by omega) (by omega) (by omega)) (isContinuation_ofNat _)
        (isContinuation_ofNat _),
      lead, payload_ofNat, payload_ofNat, payload_ofNat, whole _ code]
    rfl

theorem decodeFrom_encode (offset : Nat) (s : List Char) :
    decodeFrom offset (encode s) = .ok s := by
  induction s generalizing offset with
  | nil => rfl
  | cons c rest ih =>
      have bytes : encode (c :: rest) = encodeChar c ++ encode rest := List.flatMap_cons
      rw [bytes, decodeFrom_encodeChar, ih]
      rfl

theorem decode_encode (s : List Char) : decode (encode s) = .ok s :=
  decodeFrom_encode 0 s

theorem head_of_decode {a b c : UInt8} {r : List UInt8} {d : Char} {s : List Char}
    (first : a.toNat = 0xEF) (second : b.toNat = 0xBB) (third : c.toNat = 0xBF)
    (decoded : decode (a :: b :: c :: r) = .ok (d :: s)) : d = byteOrderMark := by
  have follows : mayFollow a b = true := by simp [mayFollow, isContinuation, first, second]
  have last : isContinuation c = true := by simp [isContinuation, third]
  rw [decode, decodeFrom_three 0 r (by omega) (by omega) follows last] at decoded
  unfold payload at decoded
  rw [first, second, third] at decoded
  cases rest : decodeFrom (0 + 3) r with
  | error f =>
      rw [rest] at decoded
      cases decoded
  | ok t =>
      rw [rest] at decoded
      cases decoded
      rfl

/-- The bytes of a text begin with a byte order mark where the text does, and nowhere else. -/
theorem dropMark_encode (s : List Char) : dropMark (encode s) = encode (Text.dropMark s) := by
  cases s with
  | nil => rfl
  | cons c rest =>
      by_cases mark : c = byteOrderMark
      · subst mark
        rfl
      · rw [Text.dropMark, if_neg mark]
        unfold dropMark
        split
        · rename_i bytes
          rw [if_neg ?_, bytes]
          rintro ⟨first, second, third⟩
          exact mark (head_of_decode first second third (bytes ▸ decode_encode (c :: rest)))
        · rfl

end Utf8

end RowLoader.Text
