/-!
The kinds of columns. A dictionary records a display type for each column; every display type has a
kind, and an unknown one counts as text.
-/

namespace RowLoader

/-- What the cells of a column stand for. -/
inductive Kind where
  | integer
  | decimal
  | text
  | boolean
  | temporal
deriving Repr, DecidableEq

namespace Kind

def name : Kind → String
  | .integer => "integer"
  | .decimal => "decimal"
  | .text => "text"
  | .boolean => "boolean"
  | .temporal => "temporal"

def isNumeric : Kind → Bool
  | .integer | .decimal => true
  | _ => false

/-- Display types of references to other records and of plain integers. -/
def integerTypes : List Int := [11, 13, 18, 19, 21, 25, 30, 31, 32, 33, 35]

def decimalTypes : List Int := [12, 22, 29, 37]

def temporalTypes : List Int := [15, 16, 24]

def booleanTypes : List Int := [20]

def ofDisplayType (t : Int) : Kind :=
  if t ∈ integerTypes then .integer
  else if t ∈ decimalTypes then .decimal
  else if t ∈ temporalTypes then .temporal
  else if t ∈ booleanTypes then .boolean
  else .text

def ofDisplayType? : Option Int → Kind
  | none => .text
  | some t => ofDisplayType t

end Kind

end RowLoader
