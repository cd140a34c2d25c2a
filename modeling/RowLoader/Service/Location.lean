import RowLoader.Text.Percent
import RowLoader.Service.Authority

/-!
Locations. A request names where it goes by a text of which the path counts, and what stands behind
the question mark. Scheme and authority are passed over, though an authority has to be a proper one.
-/

namespace RowLoader.Service

open RowLoader.Text

/-- A location cut into its parts, all still with percent signs. -/
structure Location where
  scheme : List Char
  authority : List Char
  path : List Char
  query : List Char
deriving Repr, DecidableEq

namespace Location

def isSchemeChar (c : Char) : Bool :=
  c.isAlphanum || c == '+' || c == '-' || c == '.'

def takeScheme (s : List Char) : List Char × List Char :=
  match s.takeWhile (· ≠ ':'), s.dropWhile (· ≠ ':') with
  | c :: scheme, _ :: rest =>
    if c.isAlpha && scheme.all isSchemeChar then (c :: scheme, rest) else ([], s)
  | _, _ => ([], s)

def takeAuthority : List Char → List Char × List Char
  | '/' :: '/' :: r =>
    let isInside := fun c => c ≠ '/' && c ≠ '?' && c ≠ '#'
    (r.takeWhile isInside, r.dropWhile isInside)
  | s => ([], s)

/-- A text without control characters and spaces in front, and without tabs and line ends. -/
def cleaned (s : List Char) : List Char :=
  (s.dropWhile (· ≤ ' ')).filter fun c => c ≠ '\t' && c ≠ '\n' && c ≠ '\r'

/-- Cut a text into the parts of a location. What follows a number sign is left out. -/
def cut (s : List Char) : Except HostFault Location := do
  let (scheme, s) := takeScheme (cleaned s)
  let (authority, s) := takeAuthority s
  Authority.check authority
  let s := s.takeWhile (· ≠ '#')
  return ⟨scheme, authority, s.takeWhile (· ≠ '?'), (s.dropWhile (· ≠ '?')).drop 1⟩

/-- Path and query as a text; an empty query leaves no mark. -/
def target (l : Location) : List Char :=
  l.path ++ if l.query.isEmpty then [] else '?' :: l.query

/-- The path as it is sent on. It is a location in its turn, of which all parts count. -/
def sentPath (l : Location) : Except Failure (List Char) := do
  let inner ← (cut l.path).mapError .host
  let authority ← Authority.read inner.authority
  return (if inner.scheme.isEmpty then [] else inner.scheme ++ [':'])
    ++ (if authority.text.isEmpty then [] else '/' :: '/' :: authority.text) ++ inner.path

/-- A path in plain text, with one slash in front. -/
def plainPath (path : List Char) : String :=
  String.ofList ('/' :: (Percent.decodeLossy path).dropWhile (· = '/'))

/-- A part of a query in plain text; a plus sign stands for a space. -/
def plainPart (s : List Char) : String :=
  String.ofList (Percent.decodeKeeping (s.map fun c => if c = '+' then ' ' else c))

/-- The parameters of a query, in their order. One without an equals sign has an empty value. -/
def parameters (l : Location) : List (String × String) :=
  ((split ⟨'&', []⟩ l.query).filter (fun part => !part.isEmpty)).map fun part =>
    (plainPart (part.takeWhile (· ≠ '=')), plainPart ((part.dropWhile (· ≠ '=')).drop 1))

end Location

end RowLoader.Service
