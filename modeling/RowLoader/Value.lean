import RowLoader.Calendar.Iso
import RowLoader.Number.Binary64Text

/-!
The values that a cell can stand for, and rows of named values. A row keeps the order in which its
names first came; a later value for a name takes the place of the earlier one.
-/

namespace RowLoader

open RowLoader.Number RowLoader.Calendar

/-- A typed value. -/
inductive Value where
  | null
  | flag (b : Bool)
  | whole (n : Int)
  | amount (d : Decimal)
  | real (x : Binary64)
  | day (d : Date)
  | moment (t : Timestamp)
  | text (s : String)
deriving Repr, DecidableEq

namespace Value

def display : Value → String
  | .null => "None"
  | .flag true => "True"
  | .flag false => "False"
  | .whole n => intText n
  | .amount d => d.text
  | .real x => x.text
  | .day d => d.text
  | .moment t => t.text ' '
  | .text s => s

def ofInt? : Option Int → Value
  | none => .null
  | some n => .whole n

def ofText? : Option String → Value
  | none => .null
  | some s => .text s

end Value

/-- A row of named values, in the order of their names. -/
abbrev Columns := List (String × Value)

namespace Columns

def get? (columns : Columns) (name : String) : Option Value :=
  columns.lookup name

/-- The value of a name, null when the name is missing. -/
def getD (columns : Columns) (name : String) : Value :=
  (columns.get? name).getD .null

def put (columns : Columns) (name : String) (value : Value) : Columns :=
  match columns with
  | [] => [(name, value)]
  | (n, v) :: rest => if n = name then (n, value) :: rest else (n, v) :: Columns.put rest name value

@[simp]
theorem get?_put_self (columns : Columns) (name : String) (v : Value) :
    (columns.put name v).get? name = some v := by
  induction columns with
  | nil => simp [put, get?]
  | cons c rest ih =>
    obtain ⟨n, u⟩ := c
    by_cases h : n = name
    · simp [put, get?, h]
    · have h' : (name == n) = false := by simpa using fun e => h e.symm
      simpa [put, get?, h, List.lookup_cons, h'] using ih

theorem get?_put_of_ne (columns : Columns) {name other : String} (v : Value) (h : other ≠ name) :
    (columns.put name v).get? other = columns.get? other := by
  have h' : (other == name) = false := by simpa using h
  induction columns with
  | nil => simp [put, get?, List.lookup_cons, h']
  | cons c rest ih =>
    obtain ⟨n, u⟩ := c
    by_cases hn : n = name
    · subst hn
      simp [put, get?, List.lookup_cons, h']
    · simp only [put, get?, hn, if_false, List.lookup_cons] at ih ⊢
      rw [ih]

def ofList (pairs : List (String × Value)) : Columns :=
  pairs.foldl (fun columns p => columns.put p.1 p.2) []

def names (columns : Columns) : List String :=
  columns.map (·.1)

def values (columns : Columns) : List Value :=
  columns.map (·.2)

theorem names_put_of_mem {columns : Columns} {name : String} (v : Value)
    (h : name ∈ columns.names) : (columns.put name v).names = columns.names := by
  induction columns with
  | nil => simp [names] at h
  | cons c rest ih =>
    obtain ⟨n, u⟩ := c
    by_cases hn : n = name
    · simp [put, names, hn]
    · have hr : name ∈ Columns.names rest := by simpa [names, Ne.symm hn] using h
      simpa [put, names, hn] using ih hr

theorem names_put_of_not_mem {columns : Columns} {name : String} (v : Value)
    (h : name ∉ columns.names) : (columns.put name v).names = columns.names ++ [name] := by
  induction columns with
  | nil => simp [put, names]
  | cons c rest ih =>
    obtain ⟨n, u⟩ := c
    have hn : n ≠ name := by rintro rfl; simp [names] at h
    have hr : name ∉ Columns.names rest := by
      intro hm
      apply h
      simpa [names] using Or.inr hm
    simpa [put, names, hn] using ih hr

end Columns

end RowLoader
