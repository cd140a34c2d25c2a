import RowLoader.Service.Host

/-!
Authorities. In a location an authority stands between two slashes and the path: a user, the host, and
a port behind a colon.
-/

namespace RowLoader.Service

open RowLoader.Text RowLoader.Number

/-- An authority as it is sent on. The user comes with a password, and port 0 is none. -/
structure Authority where
  user : List Char
  host : List Char
  port : Nat
deriving Repr, DecidableEq

namespace Authority

/-- The host with its port: what follows the last at sign. -/
def hostPart (s : List Char) : List Char :=
  (s.reverse.takeWhile (· ≠ '@')).reverse

/-- The user with a password: what the last at sign ends. -/
def userPart (s : List Char) : List Char :=
  ((s.reverse.dropWhile (· ≠ '@')).drop 1).reverse

def hostAndPort (s : List Char) : List Char × List Char :=
  match (hostPart s).dropWhile (· ≠ '[') with
  | _ :: inside =>
    (inside.takeWhile (· ≠ ']'), ((inside.dropWhile (· ≠ ']')).dropWhile (· ≠ ':')).drop 1)
  | [] => ((hostPart s).takeWhile (· ≠ ':'), ((hostPart s).dropWhile (· ≠ ':')).drop 1)

def areBracketsPlaced (s : List Char) : Bool :=
  let after := (((hostPart s).dropWhile (· ≠ '[')).dropWhile (· ≠ ']')).drop 1
  match hostPart s with
  | '[' :: _ => after.isEmpty || after.head? = some ':'
  | _ => !(hostPart s).contains '['

/-- Brackets come in pairs, and what they hold has to be an address. -/
def checkBrackets (s : List Char) : Except HostFault Unit :=
  if s.contains '[' ≠ s.contains ']' then .error .brokenBrackets
  else if !s.contains '[' then .ok ()
  else if !areBracketsPlaced s then .error .brokenBrackets
  else Host.checkAddress (hostAndPort s).1

/-- The characters that some other writing of a text turns into a mark of a location. -/
def disguisedMarks : List Char :=
  ['\u2047', '\u2048', '\u2049', '\u2100', '\u2101', '\u2105', '\u2106', '\u2A74', '\uFE13', '\uFE16',
    '\uFE55', '\uFE56', '\uFE5F', '\uFE6B', '\uFF03', '\uFF0F', '\uFF1A', '\uFF1F', '\uFF20']

/-- What can be told of an authority before its host and port are read. -/
def check (s : List Char) : Except HostFault Unit := do
  checkBrackets s
  if s.any disguisedMarks.contains then throw (.disguisedMark (String.ofList s))

/-- A host in lower case. The name of a zone keeps its case. -/
def lowerHost (s : List Char) : List Char :=
  lowerChars (s.takeWhile (· ≠ '%')) ++ s.dropWhile (· ≠ '%')

def greatestPort : Nat := 65535

/-- A port: digits of ASCII, or nothing for none. -/
def readPort (s : List Char) : Except Failure Nat :=
  if !s.all isAsciiDigit then .error (.host (.badPort (String.ofList s)))
  else if digitLimit < s.length then .error (.tooManyDigits s.length)
  else if greatestPort < natOfDigits s then .error (.host .portRange)
  else .ok (natOfDigits s)

/-- The user as it is sent on: nobody without a name, and no colon without a password. -/
def sentUser (s : List Char) : List Char :=
  let name := s.takeWhile (· ≠ ':')
  let password := s.dropWhile (· ≠ ':')
  if name.isEmpty then [] else if password = [':'] then name else name ++ password

/-- Read an authority. The host is read before the port. -/
def read (s : List Char) : Except Failure Authority := do
  let (host, port) := hostAndPort s
  let host ← (Host.sent (lowerHost host)).mapError .host
  let port ← readPort port
  return ⟨sentUser (userPart s), host, port⟩

def text (a : Authority) : List Char :=
  (if a.user.isEmpty then [] else a.user ++ ['@'])
    ++ (if a.host.contains ':' then '[' :: a.host ++ [']'] else a.host)
    ++ (if a.port = 0 then [] else ':' :: Nat.toDigits 10 a.port)

end Authority

end RowLoader.Service
