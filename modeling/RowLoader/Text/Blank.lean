/-!
White space and trimming. A blank is a character that Unicode counts as white space, with the
four information separators added; trimming removes blanks at both ends and nothing inside.
-/

namespace RowLoader.Text

/-- The white space of Unicode, together with U+001C to U+001F. -/
def isBlank (c : Char) : Bool :=
  let n := c.toNat
  (9 ≤ n && n ≤ 13) || (28 ≤ n && n ≤ 32) || n == 0x85 || n == 0xA0 || n == 0x1680
    || (0x2000 ≤ n && n ≤ 0x200A) || n == 0x2028 || n == 0x2029 || n == 0x202F || n == 0x205F
    || n == 0x3000

/-- The white space that ASCII knows: tab to carriage return, and the space. -/
def isAsciiBlank (c : Char) : Bool :=
  let n := c.toNat
  (9 ≤ n && n ≤ 13) || n == 32

def dropTail (p : Char → Bool) (s : List Char) : List Char :=
  (s.reverse.dropWhile p).reverse

def trimBy (p : Char → Bool) (s : List Char) : List Char :=
  dropTail p (s.dropWhile p)

def trimChars (s : List Char) : List Char :=
  trimBy isBlank s

def trim (s : String) : String :=
  String.ofList (trimChars s.toList)

def allBlank (s : String) : Bool :=
  s.toList.all isBlank

end RowLoader.Text
