/-!
UTF-8. Encoding writes each character in one to four bytes; decoding reads exactly the well-formed
sequences and locates the first fault: where it starts, how many bytes belong to it, and why.
-/

namespace RowLoader.Text.Utf8

inductive Reason where
  | badStart
  | badContinuation
  | unexpectedEnd
deriving Repr, DecidableEq

def Reason.text : Reason → String
  | .badStart => "invalid start byte"
  | .badContinuation => "invalid continuation byte"
  | .unexpectedEnd => "unexpected end of data"

/-- The first fault of a byte sequence: its offset, the bytes that belong to it, and the reason. -/
structure Fault where
  offset : Nat
  bytes : List UInt8
  reason : Reason
deriving Repr, DecidableEq

def encodeChar (c : Char) : List UInt8 :=
  let n := c.toNat
  if n < 0x80 then [UInt8.ofNat n]
  else if n < 0x800 then [UInt8.ofNat (0xC0 + n / 64), UInt8.ofNat (0x80 + n % 64)]
  else if n < 0x10000 then
    [UInt8.ofNat (0xE0 + n / 4096), UInt8.ofNat (0x80 + n / 64 % 64), UInt8.ofNat (0x80 + n % 64)]
  else
    [UInt8.ofNat (0xF0 + n / 262144), UInt8.ofNat (0x80 + n / 4096 % 64),
      UInt8.ofNat (0x80 + n / 64 % 64), UInt8.ofNat (0x80 + n % 64)]

def encode (s : List Char) : List UInt8 :=
  s.flatMap encodeChar

def isContinuation (b : UInt8) : Bool :=
  0x80 ≤ b.toNat && b.toNat < 0xC0

/-- The second bytes that may follow a lead byte: no overlong form, no surrogate, nothing past the
last code point. -/
def mayFollow (lead b : UInt8) : Bool :=
  isContinuation b
    && (lead.toNat != 0xE0 || 0xA0 ≤ b.toNat) && (lead.toNat != 0xED || b.toNat < 0xA0)
    && (lead.toNat != 0xF0 || 0x90 ≤ b.toNat) && (lead.toNat != 0xF4 || b.toNat < 0x90)

def payload (b : UInt8) : Nat :=
  b.toNat - 0x80

def decodeFrom (offset : Nat) : List UInt8 → Except Fault (List Char)
  | [] => .ok []
  | a :: r =>
    if a.toNat < 0x80 then
      (decodeFrom (offset + 1) r).map (Char.ofNat a.toNat :: ·)
    else if a.toNat < 0xC2 || 0xF5 ≤ a.toNat then
      .error ⟨offset, [a], .badStart⟩
    else match r with
      | [] => .error ⟨offset, [a], .unexpectedEnd⟩
      | b :: r =>
        if !mayFollow a b then .error ⟨offset, [a], .badContinuation⟩
        else if a.toNat < 0xE0 then
          (decodeFrom (offset + 2) r).map (Char.ofNat ((a.toNat - 0xC0) * 64 + payload b) :: ·)
        else match r with
          | [] => .error ⟨offset, [a, b], .unexpectedEnd⟩
          | c :: r =>
            if !isContinuation c then .error ⟨offset, [a, b], .badContinuation⟩
            else if a.toNat < 0xF0 then
              (decodeFrom (offset + 3) r).map
                (Char.ofNat ((a.toNat - 0xE0) * 4096 + payload b * 64 + payload c) :: ·)
            else match r with
              | [] => .error ⟨offset, [a, b, c], .unexpectedEnd⟩
              | d :: r =>
                if !isContinuation d then .error ⟨offset, [a, b, c], .badContinuation⟩
                else
                  (decodeFrom (offset + 4) r).map
                    (Char.ofNat ((a.toNat - 0xF0) * 262144 + payload b * 4096 + payload c * 64
                      + payload d) :: ·)

/-- The text of a byte sequence, or its first fault. -/
def decode (bytes : List UInt8) : Except Fault (List Char) :=
  decodeFrom 0 bytes

/-- The text of a byte sequence in which each fault is replaced by some text for its bytes. -/
def decodeReplacing (replacement : List UInt8 → List Char) : List UInt8 → List Char
  | [] => []
  | b :: r =>
    match decode (b :: r) with
    | .ok s => s
    | .error f =>
      (decode ((b :: r).take f.offset)).toOption.getD [] ++ replacement f.bytes
        ++ decodeReplacing replacement (r.drop (f.offset + f.bytes.length - 1))
termination_by bytes => bytes.length
decreasing_by
  simp only [List.length_drop, List.length_cons]
  omega

theorem decodeReplacing_of_decode {replacement : List UInt8 → List Char} {bytes : List UInt8}
    {s : List Char} (h : decode bytes = .ok s) : decodeReplacing replacement bytes = s := by
  cases bytes with
  | nil =>
    rw [decodeReplacing]
    exact Except.ok.inj h
  | cons b r => rw [decodeReplacing, h]

def Fault.message (f : Fault) : String :=
  match f.bytes with
  | [b] =>
    s!"'utf-8' codec can't decode byte 0x" ++ String.ofList (hexByte b)
      ++ s!" in position {f.offset}: {f.reason.text}"
  | bytes =>
    s!"'utf-8' codec can't decode bytes in position {f.offset}-"
      ++ s!"{f.offset + bytes.length - 1}: {f.reason.text}"
where
  hexByte (b : UInt8) : List Char :=
    if b.toNat < 16 then '0' :: Nat.toDigits 16 b.toNat else Nat.toDigits 16 b.toNat

/-- The three bytes of a byte order mark are dropped at the front, and no more than once. -/
def dropMark : List UInt8 → List UInt8
  | a :: b :: c :: r =>
    if a.toNat = 0xEF ∧ b.toNat = 0xBB ∧ c.toNat = 0xBF then r else a :: b :: c :: r
  | bytes => bytes

end RowLoader.Text.Utf8
