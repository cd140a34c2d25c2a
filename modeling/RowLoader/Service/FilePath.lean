import RowLoader.Text.Split
import RowLoader.Text.Utf8

/-!
Paths of files. A path is segments between slashes; messages show it without the segments that lead
nowhere. The system that opens files bounds the length of a path and of each segment.
-/

namespace RowLoader.Service.FilePath

open RowLoader.Text

def greatestLength : Nat := 4095

def greatestSegment : Nat := 255

/-- The slashes that a path begins with, as messages show them: two are kept, more are one. -/
def rootOf (path : String) : String :=
  match path.toList with
  | '/' :: '/' :: '/' :: _ => "/"
  | '/' :: '/' :: _ => "//"
  | '/' :: _ => "/"
  | _ => ""

def segments (path : String) : List String :=
  ((split ⟨'/', []⟩ path.toList).map String.ofList).filter fun s => s ≠ "" ∧ s ≠ "."

/-- A path as messages show it: without empty and dot segments, and never empty. -/
def shown (path : String) : String :=
  let shown := rootOf path ++ "/".intercalate (segments path)
  if shown.isEmpty then "." else shown

/-- The first segment below the directories above is too long. What lies behind a segment that is
missing is not looked at. -/
def startsTooLong : List String → Bool
  | [] => false
  | s :: rest => if s = ".." then startsTooLong rest else greatestSegment < s.utf8ByteSize

def isTooLong (path : String) : Bool :=
  greatestLength < (shown path).utf8ByteSize || startsTooLong (segments path)

/-- A path that no file can have: it holds the character that ends a path. -/
def isBroken (path : String) : Bool :=
  path.toList.contains '\x00'

end RowLoader.Service.FilePath
