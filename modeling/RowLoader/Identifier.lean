import RowLoader.Fault
import RowLoader.Header

/-!
Names that may stand in a statement: a letter of ASCII or an underscore, then letters, digits and
underscores. One line feed at the end passes the test as well.
-/

namespace RowLoader.Identifier

open RowLoader.Header

def isStart (c : Char) : Bool :=
  ('A' ≤ c && c ≤ 'Z') || ('a' ≤ c && c ≤ 'z') || c == '_'

def isPart (c : Char) : Bool :=
  isStart c || ('0' ≤ c && c ≤ '9')

def dropFinalFeed (s : List Char) : List Char :=
  if s.getLast? = some '\n' then s.dropLast else s

def isWord : List Char → Bool
  | [] => false
  | c :: r => isStart c && r.all isPart

/-- The test that a name has to pass before it enters a statement. -/
def isPlain (name : String) : Bool :=
  isWord (dropFinalFeed name.toList)

/-- The name that a statement means by an accepted text: a line feed there is only white space. -/
def bare (name : String) : String :=
  String.ofList (dropFinalFeed name.toList)

def placeOf (f : Field) : Place :=
  ⟨f.position, f.label⟩

/-- A name that passes the test, or the fault that names it, with its place where one is known. -/
def checked (name : Option String) (place : Option Place) : Except Fault String :=
  match name with
  | none => .error (.setup (.badIdentifier none place))
  | some s => if isPlain s then .ok s else .error (.setup (.badIdentifier (some s) place))

end RowLoader.Identifier
