/-!
Cutting a text at a separator. Every field is kept, the empty ones included, so a text with k
separators has k + 1 fields.
-/

namespace RowLoader.Text

/-- A separator: at least one character. -/
structure Separator where
  head : Char
  tail : List Char
deriving Repr, DecidableEq

namespace Separator

def semicolon : Separator := ⟨';', []⟩
def tab : Separator := ⟨'\t', []⟩
def comma : Separator := ⟨',', []⟩

def chars (p : Separator) : List Char :=
  p.head :: p.tail

def ofString? (s : String) : Option Separator :=
  match s.toList with
  | [] => none
  | c :: r => some ⟨c, r⟩

end Separator

def consField (c : Char) : List (List Char) → List (List Char)
  | [] => [[c]]
  | f :: fs => (c :: f) :: fs

/-- The fields of a text, with some characters of a separator still to be passed over. -/
def splitFrom (p : Separator) : Nat → List Char → List (List Char)
  | _, [] => [[]]
  | k + 1, _ :: r => splitFrom p k r
  | 0, c :: r =>
    if p.chars.isPrefixOf (c :: r) then [] :: splitFrom p p.tail.length r
    else consField c (splitFrom p 0 r)

/-- The fields of a text between the separators, found from left to right without overlap. -/
def split (p : Separator) (s : List Char) : List (List Char) :=
  splitFrom p 0 s

theorem splitFrom_ne_nil (p : Separator) (k : Nat) (s : List Char) : splitFrom p k s ≠ [] := by
  fun_induction splitFrom p k s with
  | case1 => simp
  | case2 _ _ _ ih => exact ih
  | case3 => simp
  | case4 c r _ ih => cases h : splitFrom p 0 r <;> simp_all [consField]

/-- The text with every separator, found from left to right, replaced. -/
def replace (p : Separator) (new s : List Char) : List Char :=
  new.intercalate (split p s)

theorem split_ne_nil (p : Separator) (s : List Char) : split p s ≠ [] :=
  splitFrom_ne_nil p 0 s

end RowLoader.Text
