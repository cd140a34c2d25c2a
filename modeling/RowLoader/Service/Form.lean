import RowLoader.Service.HeaderValue

/-!
Forms of several parts. A form is a sequence of bytes in which lines of two dashes and the boundary
stand between the parts; the last such line ends in two more dashes. A part is a block of header
fields, an empty line, and the content. How much of a form is held is limited, files apart.
-/

namespace RowLoader.Service

open RowLoader.Text

/-- One part of a form: the name of its field, the name of the uploaded file if it is one, and the
content. -/
structure Part where
  name : Option String
  filename : Option String
  content : List UInt8
deriving Repr, DecidableEq

/-- Why a form has no parts: it is not complete, or there is too much of it. -/
inductive Refusal where
  | malformed
  | tooLarge
deriving Repr, DecidableEq

inductive Delimiter where
  | next
  | last
deriving Repr, DecidableEq

namespace Form

def feed : UInt8 := 10
def ret : UInt8 := 13
def dash : UInt8 := 45

def afterBreak? : List UInt8 → Option (List UInt8)
  | a :: b :: r =>
    if a = ret ∧ b = feed then some r
    else if a = ret ∨ a = feed then some (b :: r)
    else none
  | [a] => if a = ret ∨ a = feed then some [] else none
  | [] => none

def isInvisible (b : UInt8) : Bool :=
  b = 9 || b = 11 || b = 12 || b = 32

/-- A boundary line at the front of a text, and what follows it. -/
def delimiter? (boundary s : List UInt8) : Option (Delimiter × List UInt8) :=
  let dashed := dash :: dash :: boundary
  if !dashed.isPrefixOf s then none
  else
    match s.drop dashed.length with
    | a :: b :: r =>
      if a = dash ∧ b = dash then some (.last, (afterLine? r).getD (r.dropWhile isInvisible))
      else (afterLine? (a :: b :: r)).map (.next, ·)
    | r => (afterLine? r).map (.next, ·)
where
  afterLine? (r : List UInt8) : Option (List UInt8) :=
    afterBreak? (r.dropWhile isInvisible)

/-- Find the first boundary line. -/
def skipPreamble (boundary : List UInt8) : List UInt8 → Option (Delimiter × List UInt8)
  | [] => none
  | b :: r => (delimiter? boundary (b :: r)).orElse fun _ => skipPreamble boundary r

/-- An empty line at the front of a text, made by two line ends of one form; the answer begins with
the second. -/
def emptyLine? (s : List UInt8) : Option (List UInt8) :=
  if [ret, feed, ret, feed].isPrefixOf s then some (s.drop 2)
  else if [ret, ret].isPrefixOf s || [feed, feed].isPrefixOf s then some (s.drop 1)
  else none

/-- The block of header fields up to an empty line, and the rest from the line end before the
content on. The bytes that were passed over come in reverse. -/
def takeHeaders (passed : List UInt8) : List UInt8 → Option (List UInt8 × List UInt8)
  | [] => none
  | b :: r =>
    match emptyLine? (b :: r) with
    | some rest => some (passed.reverse, rest)
    | none => takeHeaders (b :: passed) r

/-- The content of a part, with the line end in front of it, up to the next boundary line; what that
line opens, and the rest. The bytes that were passed over come in reverse. -/
def takeContent (boundary passed : List UInt8) :
    List UInt8 → Option (List UInt8 × Delimiter × List UInt8)
  | [] => none
  | b :: r =>
    match (afterBreak? (b :: r)).bind (delimiter? boundary) with
    | some found => some (passed.reverse, found)
    | none => takeContent boundary (b :: passed) r

/-- Header fields with a line that begins with a blank joined to the line before. -/
def unfolded : List Char → List Char
  | '\r' :: '\n' :: b :: r =>
    if b = ' ' ∨ b = '\t' then ' ' :: unfolded r else '\r' :: unfolded ('\n' :: b :: r)
  | a :: b :: r =>
    if (a = '\r' ∨ a = '\n') ∧ (b = ' ' ∨ b = '\t') then ' ' :: unfolded r
    else a :: unfolded (b :: r)
  | s => s

/-- The header fields of a block, by their names in lower case. -/
def fields (block : List Char) : List (String × List Char) :=
  let lines := split ⟨'\n', []⟩ ((unfolded block).map fun c => if c = '\r' then '\n' else c)
  let lines := (lines.map (trimBy HeaderValue.isPadding)).filter (fun line => !line.isEmpty)
  lines.map fun line =>
    (lower (String.ofList (trimBy HeaderValue.isPadding (line.takeWhile (· ≠ ':')))),
      trimBy HeaderValue.isPadding ((line.dropWhile (· ≠ ':')).drop 1))

/-- A part without content from a block of header fields, if that is text that says what the part
is. -/
def head? (block : List UInt8) : Option Part := do
  let text ← (Utf8.decode block).toOption
  let disposition := HeaderValue.read (← (fields text).lookup "content-disposition")
  return ⟨disposition.parameter? "name", disposition.parameter? "filename", []⟩

/-- The most bytes that are held at once, and the most bytes of a value. -/
def greatestHeld : Nat := 500000

def greatestCount : Nat := 1000

def runLength : Nat := 65536

/-- Bytes are held from where some piece of a form starts until the run has arrived in which it stops.
The run that makes too many of them is refused, unless the piece stops before it. -/
def isOverfull (total start : Nat) (stop : Option Nat) : Bool :=
  let full := start + greatestHeld
  full < total && stop.all (full / runLength * runLength < ·)

/-- Refuse to hold a piece of a form; the rest behind it tells where it stops. -/
def hold (total : Nat) (s : List UInt8) (rest : Option (List UInt8)) : Except Refusal Unit :=
  if isOverfull total (total - s.length) (rest.map (total - ·.length)) then .error .tooLarge
  else .ok ()

def found (x : Option α) : Except Refusal α :=
  x.elim (.error .malformed) .ok

/-- Refuse too many bytes of a value. A file may have any number of them. -/
def holdValue (part : Part) (content : List UInt8) : Except Refusal Unit :=
  if part.filename.isNone && greatestHeld < content.length then .error .tooLarge else .ok ()

/-- The parts up to the last boundary line, of which a number is allowed. -/
def partsIn (total : Nat) (boundary : List UInt8) (allowed : Nat) (s : List UInt8) :
    Except Refusal (List Part) := do
  let block := takeHeaders [] s
  hold total s (block.map (·.2))
  let (block, rest) ← found block
  let part ← found (head? block)
  match allowed with
  | 0 => throw .tooLarge
  | allowed + 1 =>
    match takeContent boundary [] rest with
    | none =>
      holdValue part rest
      throw .malformed
    | some (content, delimiter, rest) =>
      let content := (afterBreak? content).getD []
      holdValue part content
      match delimiter with
      | .last =>
        hold total rest none
        return [{ part with content }]
      | .next => return { part with content } :: (← partsIn total boundary allowed rest)

def read (boundary s : List UInt8) : Except Refusal (List Part) := do
  let opening := skipPreamble boundary s
  hold s.length s (opening.map (·.2))
  match ← found opening with
  | (.last, rest) =>
    hold s.length rest none
    return []
  | (.next, rest) => partsIn s.length boundary greatestCount rest

def multipart : String := "multipart/form-data"

/-- The type of a form of values alone, which is held as a whole. -/
def valuesOnly : String := "application/x-www-form-urlencoded"

/-- The parts of a form of some type. A type that is another one or names no boundary does not fit. -/
def partsOf (contentType : String) (s : List UInt8) : Except Refusal (List Part) :=
  let type := HeaderValue.read contentType.toList
  let boundary := ((type.parameter? "boundary").getD "").toList
  if lower type.main = valuesOnly ∧ greatestHeld < s.length then .error .tooLarge
  else if lower type.main ≠ multipart ∨ boundary.isEmpty ∨ !boundary.all (·.toNat < 128) then
    .error .malformed
  else read (Utf8.encode boundary) s

def typesByName : List (String × String) :=
  [("csv", "text/csv"), ("tsv", "text/tab-separated-values"), ("txt", "text/plain"),
    ("json", "application/json"), ("xml", "text/xml"), ("htm", "text/html"), ("html", "text/html"),
    ("xls", "application/vnd.ms-excel"), ("pdf", "application/pdf"), ("zip", "application/zip")]

def typeOfName (name : String) : String :=
  let base := (name.toList.reverse.takeWhile (· ≠ '/')).reverse.dropWhile (· = '.')
  let ending := (base.reverse.takeWhile (· ≠ '.')).reverse
  let known := if base.contains '.' then typesByName.lookup (lower (String.ofList ending)) else none
  known.getD "application/octet-stream"

/-- A part as it is sent for a field and a file, up to the boundary line that follows. Names are put
between quotes as they are. -/
def written (field filename : String) (content : List UInt8) : List UInt8 :=
  Utf8.encode ("Content-Disposition: form-data; name=\"" ++ field ++ "\"; filename=\"" ++ filename
    ++ "\"\r\nContent-Type: " ++ typeOfName filename ++ "\r\n").toList
    ++ (if content.isEmpty then [] else ret :: feed :: content) ++ [ret, feed]

/-- The part that is read where one was sent for a field and a file. -/
def partNamed? (field filename : String) (content : List UInt8) : Option Part := do
  let (block, rest) ← takeHeaders [] (written field filename content)
  let part ← head? block
  let content ← afterBreak? rest
  return { part with content := content.take (content.length - 2) }

end Form

end RowLoader.Service
