import RowLoader.Value
import RowLoader.Text.Utf8

/-!
What can stop an import. The faults of an import know their cause and, for faults of a row, where
they were found; the wording of the messages is in one place. Failures add what stops an import from
outside: the store, and values that no store can hold.
-/

namespace RowLoader

open RowLoader.Number

abbrev Details := List (String × Value)

/-- A column of the file, by position and header token. -/
structure Place where
  column : Int
  token : String
deriving Repr, DecidableEq

inductive SetupFault where
  | noTemplate
  | unknownTemplate (id : Option Int)
  | unknownMode (mode : String)
  | noTable (tab : Option Int)
  | badIdentifier (name : Option String) (place : Option Place)
  | stated (message : String) (details : Details)
deriving Repr, DecidableEq

/-- What is wrong with a row. What a problem quotes is a value: a text wherever an import finds the
problem itself. -/
inductive RowProblem where
  | malformed (expected found : Int) (line : Value)
  | duplicateKey (value : Value) (firstRow : Int)
  | lookupNotFound (value table column : Value)
  | lookupAmbiguous (value table column : Value) (hits : Int)
  | typeCast (reason : String) (value : Value) (cause : Option String)
  | recordNotFound (predicate : Value)
  | stated (reason : String) (cause : Option String) (details : Details)
deriving Repr, DecidableEq

/-- A problem of a row, with the column and its token where the problem has one. -/
structure RowFault where
  row : Int
  column : Option Int
  token : Option String
  problem : RowProblem
deriving Repr, DecidableEq

/-- A fault of an import. A fault of a row carries all the problems that were found with it. -/
inductive Fault where
  | general (message : String) (details : Details)
  | setup (f : SetupFault)
  | missingSource (path : String)
  | emptySource (path : String)
  | invalidSource (path : String) (offset : Int) (reason : String)
  | noSequence (table : Value)
  | row (first : RowFault) (problems : List RowFault)
deriving Repr, DecidableEq

inductive StoreFault where
  | noSuchTable (name : String)
  | noSuchColumn (name : String)
  | tableLacksColumn (table column : String)
  | missingValue (table column : String)
  | takenKey (table column : String)
  | typeMismatch
  | danglingReference
  | syntaxError (token : String)
  | readOnly (table : String)
deriving Repr, DecidableEq

inductive HostFault where
  | brokenBrackets
  | noAddress (text : String)
  | shortAddress
  | futureAddress
  | disguisedMark (authority : String)
  | badLabel (reason : String)
  | badPort (text : String)
  | portRange
deriving Repr, DecidableEq

/-- Anything that stops an import or a request. -/
inductive Failure where
  | fault (f : Fault)
  | store (f : StoreFault)
  | host (f : HostFault)
  | tooManyDigits (digits : Nat)
  | notAnInteger (text : String)
  | decimalRange
  | integerRange
  | signalingNan
  | undecodable (f : Text.Utf8.Fault)
  | emptySeparator
  | noSuchCell
  | positionRange
  | brokenPath
  | longPath (path : String)
  | badTimestamp (message : String)
  | notATimestamp
  | textAsLimit
  | notAddable (left right : String)
  | templateMissing
  | repeatedQuery
  | unsettled (reason : String)
  | storeNotReady
deriving Repr, DecidableEq

def shown (s : Option String) : String :=
  s.getD "None"

def shownInt (n : Option Int) : String :=
  (Value.ofInt? n).display

namespace SetupFault

def message : SetupFault → String
  | .noTemplate => "No import template specified"
  | .unknownTemplate id => s!"Import template {shownInt id} not found"
  | .unknownMode mode => s!"Unknown import mode '{mode}'"
  | .noTable tab => s!"No table found for tab {shownInt tab}"
  | .badIdentifier name none => s!"Invalid identifier '{shown name}'"
  | .badIdentifier name (some place) =>
    s!"Column {place.column} ({place.token}): invalid identifier '{shown name}'"
  | .stated message _ => message

def details : SetupFault → Details
  | .noTemplate => []
  | .unknownTemplate id => [("template_id", .ofInt? id)]
  | .unknownMode mode => [("mode", .text mode)]
  | .noTable tab => [("tab_id", .ofInt? tab)]
  | .badIdentifier name none => [("identifier", .ofText? name)]
  | .badIdentifier name (some place) =>
    [("column", .whole place.column), ("token", .text place.token), ("identifier", .ofText? name)]
  | .stated _ details => details

end SetupFault

namespace RowProblem

def kind : RowProblem → String
  | .malformed .. => "malformed_row"
  | .duplicateKey .. => "duplicate_key"
  | .lookupNotFound .. => "lookup_not_found"
  | .lookupAmbiguous .. => "lookup_ambiguous"
  | .typeCast .. => "type_cast"
  | .recordNotFound .. => "record_not_found"
  | .stated .. => "row"

def reason : RowProblem → String
  | .malformed expected found line =>
    s!"incomplete. Expected: {expected}, found: {found} -> Line: {line.display}"
  | .duplicateKey value firstRow =>
    s!"repeated key value '{value.display}', already present in row {firstRow}"
  | .lookupNotFound value table column =>
    s!"value '{value.display}' not found in {table.display}.{column.display}"
  | .lookupAmbiguous value table column hits =>
    s!"ambiguous value, {hits} records in {table.display} for {column.display}={value.display}"
  | .typeCast reason _ _ => reason
  | .recordNotFound predicate => s!"UPDATE found no record with {predicate.display}"
  | .stated reason _ _ => reason

def details : RowProblem → Details
  | .malformed expected found line =>
    [("expected", .whole expected), ("found", .whole found), ("line", line)]
  | .duplicateKey value firstRow => [("value", value), ("first_row", .whole firstRow)]
  | .lookupNotFound value table column =>
    [("value", value), ("table", table), ("lookup_column", column)]
  | .lookupAmbiguous value table column hits =>
    [("value", value), ("table", table), ("lookup_column", column), ("matches", .whole hits)]
  | .typeCast _ value _ => [("value", value)]
  | .recordNotFound predicate => [("predicate", predicate)]
  | .stated _ _ details => details

/-- The message of the fault that led to this one, if there is one. -/
def cause : RowProblem → Option String
  | .typeCast _ _ cause => cause
  | .stated _ cause _ => cause
  | _ => none

end RowProblem

namespace RowFault

def message (f : RowFault) : String :=
  match f.column with
  | some column => s!"Row {f.row}, column {column} ({shown f.token}): {f.problem.reason}"
  | none => s!"Row {f.row}: {f.problem.reason}"

def details (f : RowFault) : Details :=
  ("row", .whole f.row) :: ("column", .ofInt? f.column) :: ("token", .ofText? f.token)
    :: f.problem.details

end RowFault

namespace Fault

def ofRow (f : RowFault) : Fault :=
  .row f [f]

def kind : Fault → String
  | .general .. => "import_error"
  | .setup _ => "configuration"
  | .missingSource _ => "source_not_found"
  | .emptySource _ => "empty_source"
  | .invalidSource .. => "invalid_source"
  | .noSequence _ => "sequence"
  | .row first _ => first.problem.kind

def message : Fault → String
  | .general message _ => message
  | .setup f => f.message
  | .missingSource path => s!"File not found: {path}"
  | .emptySource path => s!"File is empty: {path}"
  | .invalidSource path offset reason =>
    s!"File {path} is not valid text at byte {offset}: {reason}"
  | .noSequence table => s!"No table sequence found for {table.display}"
  | .row first _ => first.message

def details : Fault → Details
  | .general _ details => details
  | .setup f => f.details
  | .missingSource path => [("path", .text path)]
  | .emptySource path => [("path", .text path)]
  | .invalidSource path offset _ => [("path", .text path), ("offset", .whole offset)]
  | .noSequence table => [("table", table)]
  | .row first _ => first.details

def cause : Fault → Option String
  | .row first _ => first.problem.cause
  | _ => none

/-- The messages of all problems, where there is more than one. -/
def problemMessages : Fault → Option (List String)
  | .row _ problems =>
    if 1 < problems.length then some (problems.map (·.message)) else none
  | _ => none

def further : Fault → List RowFault
  | .row _ problems => problems.drop 1
  | _ => []

end Fault

def StoreFault.message : StoreFault → String
  | .noSuchTable name => s!"no such table: {name}"
  | .noSuchColumn name => s!"no such column: {name}"
  | .tableLacksColumn table column => s!"table {table} has no column named {column}"
  | .missingValue table column => s!"NOT NULL constraint failed: {table}.{column}"
  | .takenKey table column => s!"UNIQUE constraint failed: {table}.{column}"
  | .typeMismatch => "datatype mismatch"
  | .danglingReference => "FOREIGN KEY constraint failed"
  | .syntaxError token => s!"near \"{token}\": syntax error"
  | .readOnly table => s!"table {table} may not be modified"

def HostFault.message : HostFault → String
  | .brokenBrackets => "Invalid IPv6 URL"
  | .noAddress text => s!"{Text.quoted text} does not appear to be an IPv4 or IPv6 address"
  | .shortAddress => "An IPv4 address cannot be in brackets"
  | .futureAddress => "IPvFuture address is invalid"
  | .disguisedMark authority =>
    s!"netloc '{authority}' contains invalid characters under NFKC normalization"
  | .badLabel reason => s!"encoding with 'idna' codec failed (UnicodeError: {reason})"
  | .badPort text => s!"Port could not be cast to integer value as {Text.quoted text}"
  | .portRange => "Port out of range 0-65535"

def Failure.message : Failure → String
  | .fault f => f.message
  | .store f => f.message
  | .host f => f.message
  | .tooManyDigits digits =>
    s!"Exceeds the limit ({digitLimit} digits) for integer string conversion: value has {digits} "
      ++ "digits; use sys.set_int_max_str_digits() to increase the limit"
  | .notAnInteger text =>
    s!"invalid literal for int() with base 10: {Text.quoted text}"
  | .decimalRange => "[<class 'decimal.InvalidOperation'>]"
  | .integerRange => "Python int too large to convert to SQLite INTEGER"
  | .signalingNan => "cannot convert signaling NaN to float"
  | .undecodable f => f.message
  | .emptySeparator => "empty separator"
  | .noSuchCell => "tuple index out of range"
  | .positionRange => "cannot fit 'int' into an index-sized integer"
  | .brokenPath => "embedded null byte"
  | .longPath path => s!"[Errno 36] File name too long: {Text.quoted path}"
  | .badTimestamp message => message
  | .notATimestamp => "fromisoformat: argument must be str"
  | .textAsLimit => "'>' not supported between instances of 'int' and 'str'"
  | .notAddable "str" right => s!"can only concatenate str (not \"{right}\") to str"
  | .notAddable left right => s!"unsupported operand type(s) for +: '{left}' and '{right}'"
  | .templateMissing => "'NoneType' object has no attribute 'client_id'"
  | .repeatedQuery => "Query string is defined in the path and as an argument"
  | .unsettled reason =>
    "This Session's transaction has been rolled back due to a previous exception during flush. To "
      ++ "begin a new transaction with this Session, first issue Session.rollback(). Original "
      ++ s!"exception was: {reason} (Background on this error at: https:" ++ "//sqlalche.me/e/20/7s2a)"
  | .storeNotReady => "Database not initialised - call init_db() first"

end RowLoader
