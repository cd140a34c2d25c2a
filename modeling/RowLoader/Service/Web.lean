import RowLoader.Session
import RowLoader.Json
import RowLoader.Service.Location
import RowLoader.Service.Form

/-!
The web service: a file is imported by posting it to a template; the templates in use are listed page
by page, and one template is shown with its table and the fields of its header.
-/

namespace RowLoader.Service

open RowLoader.Dictionary RowLoader.Number

structure Upload where
  field : String
  filename : String
  content : List UInt8
deriving Repr, DecidableEq

/-- What a request carries: nothing, content of some type, or an upload. -/
inductive Body where
  | none
  | plain (contentType : String) (content : List UInt8)
  | upload (u : Upload)
deriving Repr, DecidableEq

/-- A request. Its query stands in its location or is given apart. -/
structure Request where
  method : String
  location : String
  query : Option (List (String × String))
  body : Body
deriving Repr, DecidableEq

structure Response where
  status : Nat
  body : Option Json

namespace Response

def ok (body : Json) : Response :=
  ⟨200, some body⟩

def error (status : Nat) (message : String) : Response :=
  ⟨status, some (.record [("error", .text message)])⟩

def notFound : Response := error 404 "not found"
def serverError : Response := error 500 "internal server error"
def methodNotAllowed : Response := ⟨405, none⟩
def tooLarge : Response := ⟨413, none⟩

/-- A fault of an import: a template that is not there is not found, any other fault is a fault of
the request. -/
def ofFault (f : Fault) : Response :=
  let status :=
    match f with
    | .setup s => if s.details.any (fun d => d.1 = "template_id") then 404 else 422
    | _ => 422
  ⟨status, some (.record [("error", Json.ofFault f)])⟩

/-- Only faults of an import are explained. -/
def ofFailure : Failure → Response
  | .fault f => ofFault f
  | _ => serverError

end Response

/-- What a path asks for. A number of too many digits is no number of a template. -/
inductive Route where
  | importFile (template : Option Nat)
  | templates
  | template (id : Option Nat)
  | asset
deriving Repr, DecidableEq

namespace Route

def isPathNumber (s : String) : Bool :=
  !s.isEmpty && s.toList.all Text.isAsciiDigit

/-- The number that digits in a path spell, unless there are too many of them. -/
def pathNumber? (s : String) : Option Nat :=
  if s.length ≤ digitLimit then some (Text.natOfDigits s.toList) else none

def segments (path : String) : List String :=
  (Text.split ⟨'/', []⟩ path.toList).map String.ofList

/-- The name of an asset: it begins with a segment, and no line ends behind its first character. -/
def isAssetName (name : String) : Bool :=
  match name.toList with
  | [] => false
  | c :: r => c ≠ '/' && !r.contains '\n'

def ofPath? (path : String) : Option Route :=
  match segments path with
  | ["", "api", "v1", "import", id] =>
    if isPathNumber id then some (.importFile (pathNumber? id)) else none
  | ["", "api", "v1", "templates"] => some .templates
  | ["", "api", "v1", "templates", id] =>
    if isPathNumber id then some (.template (pathNumber? id)) else none
  | "" :: "static" :: name => if isAssetName ("/".intercalate name) then some .asset else none
  | _ => none

def methods : Route → List String
  | .importFile _ => ["POST", "OPTIONS"]
  | _ => ["GET", "HEAD", "OPTIONS"]

end Route

def mergeSlashes : List Char → List Char
  | '/' :: '/' :: r => mergeSlashes ('/' :: r)
  | c :: r => c :: mergeSlashes r
  | [] => []

theorem head?_mergeSlashes (s : List Char) : (mergeSlashes s).head? = s.head? := by
  fun_induction mergeSlashes s with
  | case1 r ih => exact ih
  | case2 => rfl
  | case3 => rfl

theorem mergeSlashes_mergeSlashes (s : List Char) :
    mergeSlashes (mergeSlashes s) = mergeSlashes s := by
  fun_induction mergeSlashes s with
  | case1 r ih => exact ih
  | case2 c r apart ih =>
    have next := head?_mergeSlashes r
    generalize mergeSlashes r = m at ih next ⊢
    rw [mergeSlashes]
    · rw [ih]
    · intro rest hc hm
      subst hc hm
      cases r with
      | nil => simp at next
      | cons d r =>
        have hd : d = '/' := by simpa using next.symm
        exact apart r rfl (by rw [hd])
  | case3 => rfl

inductive Destination where
  | found (r : Route)
  | moved
  | wrongMethod
  | nowhere
deriving Repr, DecidableEq

/-- Find the route of a path. A path that has one only when runs of slashes are merged is moved. -/
def destination (method path : String) : Destination :=
  match Route.ofPath? path with
  | some r => if method ∈ r.methods then .found r else .wrongMethod
  | none =>
    match Route.ofPath? (String.ofList (mergeSlashes path.toList)) with
    | some r => if method ∈ r.methods then .moved else .wrongMethod
    | none => .nowhere

/-- Whoever follows a path to where it was moved is not sent on again. -/
theorem destination_mergeSlashes_ne_moved (method : String) (path : List Char) :
    destination method (String.ofList (mergeSlashes path)) ≠ .moved := by
  unfold destination
  rw [String.toList_ofList, mergeSlashes_mergeSlashes]
  cases Route.ofPath? (String.ofList (mergeSlashes path)) with
  | none => simp
  | some r =>
    dsimp only
    split <;> simp

/-- A parameter of the query, the first of its name. -/
def parameter? (query : List (String × String)) (name : String) : Option String :=
  query.lookup name

/-- A number in the query that names a client, an organization or a user: digits only, of any kind;
any other text counts as none. Digits that are not decimal have no value. -/
def ownerNumber (query : List (String × String)) (name : String) : Except Failure (Option Int) :=
  let raw := Text.trim ((parameter? query name).getD "")
  if !raw.isEmpty && raw.toList.all Text.isDigitLike then (Resolve.integer raw).map some
  else .ok none

def pageNumber (query : List (String × String)) (name : String) (default : Int) :
    Except Failure Int :=
  match parameter? query name with
  | none => .ok default
  | some raw => Resolve.integer raw

def defaultLimit : Int := 100
def greatestLimit : Int := 1000

/-- A page of the templates in use, and how many there are in all. -/
def listTemplates (s : Store) (limit : Option Int) (offset : Int) :
    Except Failure (List Template × Nat) := do
  if !(limit.all Store.fitsInteger && Store.fitsInteger offset) then throw .integerRange
  let active := activeRows s
  let templates ← (page limit offset active).mapM (Template.ofRow s)
  return (templates, active.length)

def templateList (s : Store) (query : List (String × String)) : Except Failure Json := do
  let limit := min (← pageNumber query "limit" defaultLimit) greatestLimit
  let offset ← pageNumber query "offset" 0
  let (templates, total) ← listTemplates s (some limit) offset
  return .record [("total", .number total), ("offset", .number offset), ("limit", .number limit),
    ("templates", .list (templates.map Json.ofTemplate))]

def storedFields (header : Option String) : List Header.Field :=
  match Template.tokens header with
  | none => []
  | some tokens => Header.read (tokens.map some)

def templateDetail (s : Store) (id : Nat) : Except Failure (Option Json) := do
  match ← template? s (some id) with
  | none => return none
  | some t =>
    let table ← tableOfTab s t.tab
    return some (.record (Json.templateParts t ++ [("table", Json.ofText? table),
      ("fields", .list ((storedFields t.header).map Json.ofField))]))

/-- The parts of a form that a body is, if it is one. -/
def Body.form? : Body → Option (Except Refusal (List Part))
  | .none => Option.none
  | .plain contentType content =>
    if (contentType.splitOn "multipart").length > 1 then some (Form.partsOf contentType content)
    else Option.none
  | .upload u => some (.ok (Form.partNamed? u.field u.filename u.content).toList)

/-- The file among the parts of a form: the first one in the field for it, if that has a name. -/
def fileAmong? (parts : List Part) : Option (List UInt8) := do
  let part ← parts.find? fun p => p.name = some "file" ∧ p.filename.isSome
  if part.filename = some "" then none else some part.content

/-- The content to import, or the answer to a request without it. An incomplete form has no file. -/
def contentOf (body : Body) : Except Response (List UInt8) := do
  let content ←
    match body.form?, body with
    | some (.error .tooLarge), _ => throw .tooLarge
    | some parts, _ =>
      (fileAmong? (parts.toOption.getD [])).elim (throw (.error 400 "no file in upload")) pure
    | none, .plain _ content => pure content
    | none, _ => pure []
  if content.isEmpty then throw (.error 400 "empty body") else return content

def contextOf (now : Calendar.Timestamp) (query : List (String × String)) :
    Except Failure Context := do
  let client ← ownerNumber query "client"
  let org ← ownerNumber query "org"
  let user ← ownerNumber query "user"
  return Context.naming now client org user

/-- Import what a request carries. The content is kept under a path of the service while it is
imported. -/
def importUpload (now : Calendar.Timestamp) (path : String) (template : Nat)
    (query : List (String × String)) (body : Body) (s : Session) : Response × Session :=
  match contentOf body with
  | .error answer => (answer, s)
  | .ok content =>
    match contextOf now query with
    | .error e => (.ofFailure e, s)
    | .ok context =>
      let mode := (parameter? query "mode").getD ""
      let (answer, other) :=
        s.another.importFile (some template) ⟨path, .bytes content⟩ (some mode) context
      match answer with
      | .ok report => (.ok (Json.ofReport report), s.follow other)
      | .error e => (.ofFailure e, s.follow other)

def Response.ofExcept : Except Failure Json → Response
  | .ok body => .ok body
  | .error e => .ofFailure e

def templateAnswer (s : Store) (id : Nat) : Response :=
  match templateDetail s id with
  | .ok none => .notFound
  | .ok (some body) => .ok body
  | .error e => .ofFailure e

/-- The answer to a method on a route. There are no assets. -/
def routeAnswer (now : Calendar.Timestamp) (path method : String)
    (query : List (String × String)) (body : Body) (s : Session) : Route → Response × Session
  | .importFile none | .template none => (.notFound, s)
  | r =>
    if method = "OPTIONS" then (⟨200, none⟩, s)
    else
      match r with
      | .importFile (some id) => importUpload now path id query body s
      | .templates => (.ofExcept (templateList s.committed query), s)
      | .template (some id) => (templateAnswer s.committed id, s)
      | _ => (.notFound, s)

/-- Where a request goes in plain text, with its query, which cannot stand in the location and apart.
Location, path and authority are looked at in this order. -/
def Request.target (r : Request) : Except Failure (String × List (String × String)) := do
  let outer ← (Location.cut r.location.toList).mapError .host
  if r.query.isSome ∧ !outer.query.isEmpty then throw .repeatedQuery
  let inner ← (Location.cut outer.target).mapError .host
  let path ← inner.sentPath
  discard (Authority.read outer.authority)
  return (Location.plainPath path, r.query.getD inner.parameters)

/-- Answer a request in a session of its own. Work in progress is committed first. The names of
methods agree up to case; to the method that asks for no body, as it is spelled, none is sent. -/
def answer (now : Calendar.Timestamp) (file : String) (r : Request) (s : Session) :
    Except Failure Response × Session :=
  match s.settle with
  | .error e => (.error e, s)
  | .ok s =>
    match r.target with
    | .error e => (.error e, s)
    | .ok (path, query) =>
      let method := Text.upper r.method
      let (answer, s) :=
        match destination method path with
        | .found route => routeAnswer now file method query r.body s route
        | .moved => (⟨308, none⟩, s)
        | .wrongMethod => (.methodNotAllowed, s)
        | .nowhere => (.notFound, s)
      (.ok (if r.method = "HEAD" then { answer with body := none } else answer), s)

end RowLoader.Service
