import RowLoader.Text.Utf8
import RowLoader.Text.Digit

/-!
Percent signs. A percent sign and two hexadecimal digits stand for a byte, and the bytes of a text
spell it in UTF-8. A percent sign without two such digits stands for itself. Main statement: an
escaped byte reads back (`bytes_escape`).
-/

namespace RowLoader.Text.Percent

def hexValue? (c : Char) : Option Nat :=
  if isAsciiDigit c then some (c.toNat - 48)
  else if 'a' ≤ c && c ≤ 'f' then some (c.toNat - 87)
  else if 'A' ≤ c && c ≤ 'F' then some (c.toNat - 55)
  else none

def hexDigit (n : Nat) : Char :=
  Char.ofNat (if n < 10 then n + 48 else n + 55)

theorem hexValue?_hexDigit : ∀ n : Fin 16, hexValue? (hexDigit n) = some n.val := by
  decide

def escape (b : UInt8) : List Char :=
  ['%', hexDigit (b.toNat / 16), hexDigit (b.toNat % 16)]

def bytes : List Char → List UInt8
  | [] => []
  | '%' :: a :: b :: r =>
    match hexValue? a, hexValue? b with
    | some high, some low => UInt8.ofNat (16 * high + low) :: bytes r
    | _, _ => Utf8.encodeChar '%' ++ bytes (a :: b :: r)
  | c :: r => Utf8.encodeChar c ++ bytes r

theorem bytes_escape (b : UInt8) (r : List Char) : bytes (escape b ++ r) = b :: bytes r := by
  have hb : b.toNat < 256 := b.toNat_lt
  have high := hexValue?_hexDigit ⟨b.toNat / 16, by omega⟩
  have low := hexValue?_hexDigit ⟨b.toNat % 16, by omega⟩
  simp only at high low
  simp only [escape, List.cons_append, List.nil_append, bytes, high, low]
  rw [Nat.div_add_mod]
  simp

/-- The text that a text with percent signs stands for; bytes that spell nothing are replaced. -/
def decode (replacement : List UInt8 → List Char) (s : List Char) : List Char :=
  Utf8.decodeReplacing replacement (bytes s)

def decodeLossy (s : List Char) : List Char :=
  decode (fun _ => ['\uFFFD']) s

/-- Bytes that spell nothing stay behind percent signs. -/
def decodeKeeping (s : List Char) : List Char :=
  decode (·.flatMap escape) s

end RowLoader.Text.Percent
