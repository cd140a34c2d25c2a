import RowLoader.Text.Blank

/-!
Lines of a text. A line ends at a line boundary or at the end of the text; carriage return and line
feed together are one boundary, and a boundary at the very end opens no further line.
-/

namespace RowLoader.Text

/-- The line boundaries of Unicode, with the file, group and record separators. -/
def isLineBoundary (c : Char) : Bool :=
  let n := c.toNat
  (10 ≤ n && n ≤ 13) || (28 ≤ n && n ≤ 30) || n == 0x85 || n == 0x2028 || n == 0x2029

def consLine (c : Char) : List (List Char) → List (List Char)
  | [] => [[c]]
  | l :: ls => (c :: l) :: ls

def linesOf : List Char → List (List Char)
  | [] => []
  | [c] => if isLineBoundary c then [[]] else [[c]]
  | c :: d :: r =>
    if c = '\r' ∧ d = '\n' then [] :: linesOf r
    else if isLineBoundary c then [] :: linesOf (d :: r)
    else consLine c (linesOf (d :: r))

def byteOrderMark : Char := Char.ofNat 0xFEFF

/-- One byte order mark is dropped at the front, and no more than one. -/
def dropMark : List Char → List Char
  | [] => []
  | c :: r => if c = byteOrderMark then r else c :: r

/-- The lines of a text that hold more than blanks, untrimmed, after one leading byte order mark. -/
def filledLines (s : List Char) : List String :=
  ((linesOf (dropMark s)).filter (fun l => !l.all isBlank)).map String.ofList

end RowLoader.Text
