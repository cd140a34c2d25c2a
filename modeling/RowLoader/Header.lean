import RowLoader.Text.Blank
import RowLoader.Text.Case
import RowLoader.Text.Split

/-!
Header tokens. A token names the target column of a file column, optionally behind a path of tables
separated by >, optionally with a look-up column in brackets, optionally with the key mark /K. Every
text is a token: one that fits nothing else is a plain column of that name.
-/

namespace RowLoader.Header

open RowLoader.Text

/-- A parsed token, with its trimmed text. The path of a field is its qualifiers and then its target,
so it is never empty. -/
structure Field where
  token : String
  qualifiers : List String
  target : String
  lookup : Option String
  isKey : Bool
  position : Int
deriving Repr, DecidableEq

namespace Field

def path (f : Field) : List String :=
  f.qualifiers ++ [f.target]

theorem path_ne_nil (f : Field) : f.path ≠ [] := by
  simp [path]

def label (f : Field) : String :=
  f.token

/-- A name without its last three characters when its upper case ends in _ID. -/
def withoutIdSuffix (name : String) : String :=
  if "_ID".toList.isSuffixOf (upperChars name.toList) then
    String.ofList (name.toList.take (name.toList.length - 3))
  else name

/-- The table that a look-up searches: the last qualifier, or the target without its suffix. -/
def lookupTable (f : Field) : Option String :=
  f.lookup.map (fun _ => f.qualifiers.getLast?.getD (withoutIdSuffix f.target))

end Field

/-- The key mark is at the end of a token, in either case. -/
def hasKeyMark (s : List Char) : Bool :=
  "/K".toList.isSuffixOf (upperChars s)

/-- A token without its key mark, and whether it had one. -/
def takeKeyMark (s : List Char) : Bool × List Char :=
  if hasKeyMark s then (true, trimChars (s.take (s.length - 2))) else (false, s)

/-- The first bracket of a line that has a character before it, with what stands before it and what
stands inside; the inside has a character too and ends at the first closing bracket after that. -/
def bracketIn? : List Char → Option (List Char × List Char)
  | [] => none
  | c :: r =>
    match r.dropWhile (· ≠ '[') with
    | _ :: d :: inner =>
      if inner.contains ']' then
        some (c :: r.takeWhile (· ≠ '['), d :: inner.takeWhile (· ≠ ']'))
      else none
    | _ => none

def bracket? (s : List Char) : Option (List Char × List Char) :=
  (split ⟨'\n', []⟩ s).findSome? bracketIn?

def nonBlank? (s : List Char) : Option String :=
  match trimChars s with
  | [] => none
  | t => some (String.ofList t)

def takeLookup (s : List Char) : List Char × Option String :=
  match bracket? s with
  | none => (s, none)
  | some (name, inside) => (trimChars name, nonBlank? inside)

def segments (s : List Char) : List String :=
  (split ⟨'>', []⟩ s).filterMap nonBlank?

/-- Read a token at a position. Without a segment the whole token is the target and neither look-up
nor key mark counts. -/
def Field.read (text : Option String) (position : Int) : Field :=
  let trimmed := trimChars (text.getD "").toList
  let token := String.ofList trimmed
  let marked := takeKeyMark trimmed
  let named := takeLookup marked.2
  match (segments named.1).reverse with
  | [] => { token, qualifiers := [], target := token, lookup := none, isKey := false, position }
  | target :: qualifiers =>
    { token, qualifiers := qualifiers.reverse, target, lookup := named.2, isKey := marked.1,
      position }

def readFrom (position : Int) : List (Option String) → List Field
  | [] => []
  | token :: rest => Field.read token position :: readFrom (position + 1) rest

@[simp]
theorem position_read (text : Option String) (position : Int) :
    (Field.read text position).position = position := by
  simp only [Field.read]
  split <;> rfl

@[simp]
theorem length_readFrom (position : Int) (tokens : List (Option String)) :
    (readFrom position tokens).length = tokens.length := by
  induction tokens generalizing position with
  | nil => rfl
  | cons token rest ih => simp [readFrom, ih]

theorem getElem?_readFrom (position : Int) (tokens : List (Option String)) (i : Nat) :
    (readFrom position tokens)[i]? = tokens[i]?.map (Field.read · (position + i)) := by
  induction tokens generalizing position i with
  | nil => simp [readFrom]
  | cons token rest ih =>
    cases i with
    | zero => simp [readFrom]
    | succ i => simp [readFrom, ih, Int.add_assoc, Int.add_comm 1]

/-- Read a header: the tokens are numbered from 1. -/
def read (tokens : List (Option String)) : List Field :=
  readFrom 1 tokens

def keys (fields : List Field) : List Field :=
  fields.filter (·.isKey)

end RowLoader.Header
