import RowLoader.Value

/-!
Candidates for a value in order of precedence: the first that is usable wins.
-/

namespace RowLoader.Precedence

open RowLoader.Number RowLoader.Text

/-- The integer that a value spells when it is displayed; a value that spells none counts as 0, and
so do null and flags. -/
def asInt : Value → Int
  | .null => 0
  | .flag _ => 0
  | .whole n => n
  | v =>
    match readInt (trimChars v.display.toList) with
    | .ok n => n
    | .error _ => 0

/-- The first candidate that is a positive integer, else 0. -/
def firstPositive : List Value → Int
  | [] => 0
  | v :: rest => if 0 < asInt v then asInt v else firstPositive rest

def firstPresent : List Value → Value
  | [] => .null
  | .null :: rest => firstPresent rest
  | v :: _ => v

end RowLoader.Precedence
