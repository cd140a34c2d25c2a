import RowLoader.Text.Percent
import RowLoader.Text.Split
import RowLoader.Text.Blank
import RowLoader.Text.Case

/-!
Values of header fields with parameters: a main value, and after semicolons names with values, which
are tokens or quoted. A name that ends in a star has a value with a character set and percent signs;
a name that ends in a star and a number continues the value of the name before the star.
-/

namespace RowLoader.Service

open RowLoader.Text

/-- The value of a header field. Of several values for a parameter the last counts, and it comes
first. -/
structure HeaderValue where
  main : String
  parameters : List (String × String)
deriving Repr, DecidableEq

namespace HeaderValue

/-- The blanks that stand between the parts of a header field and are no part of them. -/
def isPadding (c : Char) : Bool :=
  c = ' ' || c = '\t'

/-- A value as it is written: a token, or a quoted text, here without its quotes and escapes. -/
inductive Written where
  | token (s : List Char)
  | quoted (s : List Char)
deriving Repr, DecidableEq

def isTokenChar (c : Char) : Bool :=
  c.isAlphanum || "!#$%&'*+-.^_`|~".toList.contains c

/-- The rest of a quoted text, in which a backslash stands before a character that is meant as it is,
and what follows the closing quote, if there is one. -/
def takeQuoted : List Char → Option (List Char × List Char)
  | [] => none
  | '\\' :: c :: r => (takeQuoted r).map fun p => (c :: p.1, p.2)
  | '"' :: r => some ([], r)
  | c :: r => (takeQuoted r).map fun p => (c :: p.1, p.2)

/-- The value at the front of a text, and what follows; neither where a quote is not closed. -/
def takeValue (s : List Char) : Option (Option Written × List Char) :=
  match s.takeWhile isTokenChar, s with
  | c :: token, _ => some (some (.token (c :: token)), s)
  | [], '"' :: r => (takeQuoted r).map fun p => (some (.quoted p.1), p.2)
  | [], _ => some (none, s)

/-- The parameter at the front of a text, if there is one, with its name in lower case, and the rest
in which to look for the next semicolon. -/
def takeParameter (s : List Char) : Option (Option (List Char × Written) × List Char) :=
  match s.takeWhile isTokenChar, s.dropWhile isTokenChar with
  | c :: name, '=' :: rest =>
    (takeValue rest).map fun p => (p.1.map (((c :: name).map Char.toLower), ·), p.2)
  | _, _ => some (none, s)

/-- The parameters of a text, of which there are fewer than it has characters. A quote that is not
closed ends them. -/
def writtenIn : Nat → List Char → List (List Char × Written)
  | 0, _ => []
  | fuel + 1, s =>
    match takeParameter s with
    | none => []
    | some (parameter, rest) =>
      parameter.toList
        ++ match rest.dropWhile (· ≠ ';') with
          | [] => []
          | _ :: next => writtenIn fuel (next.dropWhile isPadding)

/-- The character set of an extended value, between apostrophes from a language, and the rest. -/
def takeCharset? (s : List Char) : Option (String × List Char) :=
  let isPlain := fun c => c ≠ '\''
  match s.dropWhile isPlain with
  | '\'' :: r =>
    match r.dropWhile isPlain with
    | '\'' :: c :: value => some (String.ofList ((s.takeWhile isPlain).map Char.toLower), c :: value)
    | _ => none
  | _ => none

def charsets : List (String × (List UInt8 → List Char)) :=
  let ascii := (·.map fun b : UInt8 => if b < 128 then Char.ofNat b.toNat else '\uFFFD')
  [("ascii", ascii), ("us-ascii", ascii), ("utf-8", Utf8.decodeReplacing fun _ => ['\uFFFD']),
    ("iso-8859-1", (·.map fun b => Char.ofNat b.toNat))]

/-- What is known of a parameter: its value so far, whether more of it can follow, and the character
set that it named. -/
structure Entry where
  value : List Char
  isOpen : Bool
  charset : String

def Entry.fresh : Entry := ⟨[], true, ""⟩

abbrev Reading := List (List Char × Entry)

def plainValue (s : List Char) : List Char :=
  replace ⟨'%', ['2', '2']⟩ ['"'] s

/-- An extended value as plain text, and its character set: the one that it names, or else the one
that is given. Without a known one the value stays as it is. -/
def decoded (given : String) (s : List Char) : List Char × String :=
  let (named, value) := (takeCharset? s).getD ("", s)
  let charset := if named.isEmpty then given else named
  match charsets.lookup charset with
  | none => (value, charset)
  | some decode => (decode (Percent.bytes value), charset)

/-- A name without the star and the number that mark it as a continuation, if it has them. -/
def stem? (name : List Char) : Option (List Char) :=
  match name.reverse.takeWhile isAsciiDigit, name.reverse.dropWhile isAsciiDigit with
  | _ :: _, '*' :: stem => some stem.reverse
  | _, _ => none

/-- What there is to continue: nothing where a parameter is new or was given as a whole. -/
def entryToContinue (s : Reading) (name : List Char) : Entry :=
  match s.lookup name with
  | some entry => if entry.isOpen then entry else .fresh
  | none => .fresh

/-- Read one more parameter. An extended value is a token. -/
def addParameter (s : Reading) (p : List Char × Written) : Reading :=
  let isExtended := p.1.getLast? = some '*'
  let name := if isExtended then p.1.dropLast else p.1
  let before := ((stem? name).map (entryToContinue s)).getD .fresh
  let found : Option (List Char × String) :=
    match p.2 with
    | .token t => some (if isExtended then decoded before.charset t else (t, before.charset))
    | .quoted t => if isExtended then none else some (t, before.charset)
  match found with
  | none => s
  | some (value, charset) =>
    let entry := ⟨before.value ++ plainValue value, (stem? name).isSome, charset⟩
    ((stem? name).getD name, entry) :: s

def read (s : List Char) : HeaderValue :=
  let main := trimBy isPadding (s.takeWhile (· ≠ ';'))
  let rest := trimBy isPadding ((s.dropWhile (· ≠ ';')).drop 1)
  let written := if main.isEmpty then [] else writtenIn (rest.length + 1) rest
  ⟨String.ofList main, (written.foldl addParameter []).map fun p =>
    (String.ofList p.1, String.ofList p.2.value)⟩

def parameter? (h : HeaderValue) (name : String) : Option String :=
  h.parameters.lookup name

end HeaderValue

end RowLoader.Service
