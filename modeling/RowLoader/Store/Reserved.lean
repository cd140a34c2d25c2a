import RowLoader.Store.Cell
import RowLoader.Text.Case
import RowLoader.Identifier

/-!
Reserved words. A statement names its tables and columns without quotes, so a word that the grammar
reserves cannot stand there; the fault names the first token that does not fit. Where an expression
can stand, some words mean a value.
-/

namespace RowLoader.Store

open RowLoader.Identifier

/-- The words that no table and no column can be named by, in upper case. -/
def reservedWords : List String :=
  ["ADD", "ALL", "ALTER", "AND", "AS", "AUTOINCREMENT", "BETWEEN", "CASE", "CHECK", "COLLATE",
    "COMMIT", "CONSTRAINT", "CREATE", "DEFAULT", "DEFERRABLE", "DELETE", "DISTINCT", "DROP", "ELSE",
    "ESCAPE", "EXCEPT", "EXISTS", "FOREIGN", "FROM", "GROUP", "HAVING", "IN", "INDEX", "INSERT",
    "INTERSECT", "INTO", "IS", "ISNULL", "JOIN", "LIMIT", "NOT", "NOTHING", "NOTNULL", "NULL", "ON",
    "OR", "ORDER", "PRIMARY", "REFERENCES", "RETURNING", "SELECT", "SET", "TABLE", "THEN", "TO",
    "TRANSACTION", "UNION", "UNIQUE", "UPDATE", "USING", "VALUES", "WHEN", "WHERE"]

/-- The words that begin an expression and want more of it, in upper case. -/
def openingWords : List String := ["CASE", "CAST", "EXISTS", "NOT", "RAISE"]

def quantifiers : List String := ["ALL", "DISTINCT"]

def isAmong (words : List String) (name : String) : Bool :=
  words.contains (Text.asciiUpper (bare name))

def valueWords : List String := ["NULL", "TRUE", "FALSE"]

/-- The words that mean the present moment where an expression can stand, in upper case. -/
def clockWords : List String := ["CURRENT_DATE", "CURRENT_TIME", "CURRENT_TIMESTAMP"]

/-- The values of the words that never name a column, given the present moment. -/
def literals (now : Calendar.Timestamp) : List (String × Cell) :=
  [("NULL", .null), ("CURRENT_DATE", .text now.date.text), ("CURRENT_TIME", .text now.clockText),
    ("CURRENT_TIMESTAMP", .text (now.date.text ++ " " ++ now.clockText))]

/-- The value that a word means where an expression can stand, also where it is the name of a column. -/
def literal? (now : Calendar.Timestamp) (name : String) : Option Cell :=
  (literals now).lookup (Text.asciiUpper (bare name))

/-- The values of the words that give way to a column of their name. -/
def constants : List (String × Cell) :=
  [("TRUE", .int 1), ("FALSE", .int 0)]

/-- The value that a word means where an expression can stand, unless it is the name of a column. -/
def constant? (name : String) : Option Cell :=
  constants.lookup (Text.asciiUpper (bare name))

def checkName (name : String) : Except StoreFault Unit :=
  if isAmong reservedWords name then .error (.syntaxError (bare name)) else .ok ()

/-- A name where an expression can stand, with the token that follows it. -/
def checkOperand (name next : String) : Except StoreFault Unit :=
  if isAmong openingWords name then .error (.syntaxError next)
  else if isAmong valueWords name then .ok ()
  else checkName name

/-- The name of a table to update. The word that would open another form of the statement makes the
token after it the fault. -/
def checkUpdated (table : String) : Except StoreFault Unit :=
  if isAmong ["OR"] table then .error (.syntaxError "SET") else checkName table

def checkTarget (name : String) : Except StoreFault Unit :=
  if isAmong quantifiers name then .error (.syntaxError "FROM") else checkOperand name "FROM"

def checkEach (test : String → Except StoreFault Unit) : List String → Except StoreFault Unit
  | [] => .ok ()
  | name :: rest => do
    test name
    checkEach test rest

end RowLoader.Store
