import RowLoader.Text.Punycode
import RowLoader.Text.Split
import RowLoader.Text.Case
import RowLoader.Fault

/-!
Hosts. A host is an address in brackets or a name of labels with dots between them. A label is sent in
at most 63 characters of ASCII, so one with other characters is prepared and encoded first.
-/

namespace RowLoader.Service.Host

open RowLoader.Text

/-- A part of an address of four numbers: up to 255, without a zero in front. -/
def isOctet (s : List Char) : Bool :=
  !s.isEmpty && s.all isAsciiDigit && s.length ≤ 3 && (s.length = 1 || s.head? ≠ some '0')
    && natOfDigits s ≤ 255

def isShortAddress (s : List Char) : Bool :=
  let parts := split ⟨'.', []⟩ s
  parts.length = 4 && parts.all isOctet

def isHexDigit (c : Char) : Bool :=
  isAsciiDigit c || ('a' ≤ c && c ≤ 'f') || ('A' ≤ c && c ≤ 'F')

def isGroup (s : List Char) : Bool :=
  !s.isEmpty && s.length ≤ 4 && s.all isHexDigit

/-- Parts of a long address in which a short address at the end stands as two groups. -/
def withoutTail (parts : List (List Char)) : Option (List (List Char)) :=
  match parts.getLast? with
  | none => none
  | some last =>
    if !last.contains '.' then some parts
    else if isShortAddress last then some (parts.dropLast ++ [['0'], ['0']])
    else none

/-- Groups on one side of a gap; the side is empty when nothing stands there. -/
def side (parts : List (List Char)) : List (List Char) :=
  if parts = [[]] then [] else parts

def areGroups (parts : List (List Char)) : Bool :=
  match (parts.drop 1).dropLast.findIdx? (·.isEmpty) with
  | none => parts.length = 8 && parts.all isGroup
  | some i =>
    let groups := side (parts.take (i + 1)) ++ side (parts.drop (i + 2))
    groups.length ≤ 7 && groups.all isGroup

/-- A long address: groups between colons, and after a percent sign the name of a zone. -/
def isLongAddress (s : List Char) : Bool :=
  let zone := s.dropWhile (· ≠ '%')
  let parts := split ⟨':', []⟩ (s.takeWhile (· ≠ '%'))
  (zone.isEmpty || (zone.length ≠ 1 && !(zone.drop 1).contains '%'))
    && 3 ≤ parts.length && (withoutTail parts).any areGroups

/-- An address of a kind to come: the letter v, a version, a point, and anything. -/
def isFutureAddress (s : List Char) : Bool :=
  match (s.drop 1).takeWhile isHexDigit, (s.drop 1).dropWhile isHexDigit with
  | _ :: _, '.' :: _ :: _ => true
  | _, _ => false

/-- A host in brackets has to be an address, and not a short one. -/
def checkAddress (s : List Char) : Except HostFault Unit :=
  if s.head? = some 'v' then
    if isFutureAddress s then .ok () else .error .futureAddress
  else if isShortAddress s then .error .shortAddress
  else if isLongAddress s then .ok ()
  else .error (.noAddress (String.ofList s))

def greatestLabel : Nat := 63

def checkLength (label : List Char) : Except HostFault Unit :=
  if 0 < label.length ∧ label.length ≤ greatestLabel then .ok ()
  else .error (.badLabel "label empty or too long")

def labelEnds : List Char := ['.', '\u3002', '\uFF0E', '\uFF61']

def isWithin (ranges : List (Nat × Nat)) (c : Char) : Bool :=
  ranges.any fun r => r.1 ≤ c.toNat && c.toNat ≤ r.2

/-- The characters that are dropped from a label. -/
def droppedRanges : List (Nat × Nat) :=
  [(0xAD, 0xAD), (0x34F, 0x34F), (0x1806, 0x1806), (0x180B, 0x180D), (0x200B, 0x200D),
    (0x2060, 0x2060), (0xFE00, 0xFE0F), (0xFEFF, 0xFEFF)]

/-- The characters that no label can have, the last two of every plane apart. -/
def forbiddenRanges : List (Nat × Nat) :=
  [(0x80, 0x9F), (0x6DD, 0x6DD), (0x70F, 0x70F), (0x1680, 0x1680), (0x180E, 0x180E),
    (0x200E, 0x200F), (0x2028, 0x202E), (0x2061, 0x2063), (0x206A, 0x206F), (0x2FF0, 0x2FFB),
    (0xE000, 0xF8FF), (0xFDD0, 0xFDEF), (0xFFF9, 0xFFFD), (0x1D173, 0x1D17A), (0xE0001, 0xE0001),
    (0xE0020, 0xE007F), (0xF0000, 0x10FFFF)]

def isForbidden (c : Char) : Bool :=
  isWithin forbiddenRanges c || 0xFFFE ≤ c.toNat % 0x10000

/-- What a label with characters outside ASCII begins with when it is sent. -/
def sentMark : List Char := "xn--".toList

/-- A label in which letters that differ in case only are one. -/
def prepared (label : List Char) : List Char :=
  lowerChars (upperChars (label.filter (!isWithin droppedRanges ·)))

def sentLabel (label : List Char) : Except HostFault (List Char) := do
  let prepared := prepared label
  if label.all (·.toNat < 128) then
    checkLength label
    return label
  else
    match prepared.find? isForbidden with
    | some c => throw (.badLabel ("Invalid character " ++ quoted c.toString))
    | none =>
      if prepared.all (·.toNat < 128) then
        checkLength prepared
        return prepared
      else if sentMark.isPrefixOf prepared then throw (.badLabel "Label starts with ACE prefix")
      else
        let sent := sentMark ++ Punycode.encode prepared
        checkLength sent
        return sent

def labelsOf (name : List Char) : List (List Char) :=
  split ⟨'.', []⟩ (name.map fun c => if labelEnds.contains c then '.' else c)

/-- Labels of ASCII: all but the last one are tested in full, the last one may be empty. -/
def checkPlain : List (List Char) → Except HostFault Unit
  | [] => .ok ()
  | [last] => if last.length ≤ greatestLabel then .ok () else .error (.badLabel "label too long")
  | label :: rest => do
    checkLength label
    checkPlain rest

def sent (name : List Char) : Except HostFault (List Char) := do
  if name.all (·.toNat < 128) then
    checkPlain (split ⟨'.', []⟩ name)
    return name
  else
    let labels := labelsOf name
    let ends := labels.getLast? = some []
    let labels ← (if ends then labels.dropLast else labels).mapM sentLabel
    return ['.'].intercalate labels ++ if ends then ['.'] else []

end RowLoader.Service.Host
