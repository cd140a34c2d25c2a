import RowLoader.Text.CaseTable

/-!
Upper and lower case. ASCII maps by itself; beyond it the tables decide, and one character may
become several.
-/

namespace RowLoader.Text

/-- The form of a character under a case map given by runs and expansions. -/
def caseForm (runs : List CaseRun) (expansions : List (Nat × List Nat)) (c : Char) : List Char :=
  match expansions.lookup c.toNat with
  | some form => form.map Char.ofNat
  | none => [((runs.findSome? (·.shifted? c.toNat)).map Char.ofNat).getD c]

def upperForm (c : Char) : List Char :=
  if c.toNat < 128 then [c.toUpper] else caseForm upperRuns upperExpansions c

def lowerForm (c : Char) : List Char :=
  if c.toNat < 128 then [c.toLower] else caseForm lowerRuns lowerExpansions c

def upperChars (s : List Char) : List Char :=
  s.flatMap upperForm

def upper (s : String) : String :=
  String.ofList (upperChars s.toList)

def lowerChars (s : List Char) : List Char :=
  s.flatMap lowerForm

def lower (s : String) : String :=
  String.ofList (lowerChars s.toList)

/-- Upper case of the ASCII letters only; every other character stays. -/
def asciiUpper (s : String) : String :=
  String.ofList (s.toList.map Char.toUpper)

/-- Two names that differ at most in the case of ASCII letters. -/
def sameName (a b : String) : Bool :=
  asciiUpper a == asciiUpper b

end RowLoader.Text
