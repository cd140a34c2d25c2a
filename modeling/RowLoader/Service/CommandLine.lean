import RowLoader.Session
import RowLoader.Service.FilePath

/-!
The command line: a template number and a path to import, with options for the mode and for the
client, organization and user. A wrong use ends with status 2, a failed import with status 1.
-/

namespace RowLoader.Service

open RowLoader.Number

structure Options where
  mode : String
  client : Option Int
  org : Option Int
  user : Option Int
deriving Repr, DecidableEq

structure Invocation where
  template : Int
  path : String
  options : Options
deriving Repr, DecidableEq

/-- Arguments cut into options with their values and the others; none when an option is unknown or
has no value. -/
def cutArguments : List String → Option (List (String × String) × List String)
  | [] => some ([], [])
  | arg :: rest =>
    if arg = "--" then some ([], rest)
    else if arg.length ≤ 1 ∨ arg.front ≠ '-' then
      (cutArguments rest).map fun (options, others) => (options, arg :: others)
    else
      match optionName? arg, rest with
      | none, _ => none
      | some (name, some value), rest => add name value (cutArguments rest)
      | some (_, none), [] => none
      | some (name, none), value :: rest => add name value (cutArguments rest)
where
  add (name value : String) (cut : Option (List (String × String) × List String)) :=
    cut.map fun (options, others) => ((name, value) :: options, others)
  /-- The name of an option, and its value where an equals sign joins them. -/
  optionName? (arg : String) : Option (String × Option String) :=
    let name := String.ofList (arg.toList.takeWhile (· ≠ '='))
    let value :=
      match arg.toList.dropWhile (· ≠ '=') with
      | [] => none
      | _ :: value => some (String.ofList value)
    if name ∈ ["--mode", "--client", "--org", "--user"] then some (name, value) else none

def lastOption? (options : List (String × String)) (name : String) : Option String :=
  options.reverse.lookup name

def number? (s : String) : Option Int :=
  (readInt s.toList).toOption

/-- A number given by an option, or nothing where the option is not given. -/
def optionNumber? (options : List (String × String)) (name : String) : Option (Option Int) :=
  match lastOption? options name with
  | none => some none
  | some value => (number? value).map some

/-- Why arguments are not accepted: they do not fit the command, or the path is none. -/
inductive Misuse where
  | wrongUse
  | brokenPath
deriving Repr, DecidableEq

def Options.ofGiven? (given : List (String × String)) : Option Options := do
  return {
    mode := (lastOption? given "--mode").getD ""
    client := ← optionNumber? given "--client"
    org := ← optionNumber? given "--org"
    user := ← optionNumber? given "--user" }

/-- Read the arguments. The options are tested first, then the template and the path, and last that
nothing is left over. -/
def Invocation.ofArguments (arguments : List String) : Except Misuse Invocation := do
  let some (given, others) := cutArguments arguments | throw .wrongUse
  let some options := Options.ofGiven? given | throw .wrongUse
  let template :: path :: extra := others | throw .wrongUse
  let some template := number? template | throw .wrongUse
  if FilePath.isBroken path then throw .brokenPath
  if !extra.isEmpty then throw .wrongUse
  return { template, path, options }

structure Answer where
  exit : Nat
  output : String
  errors : String
  unexplained : Option Failure

def failureLines (f : Fault) : String :=
  s!"Import failed: {f.message}\n"
    ++ String.join (f.further.map (fun p => s!"  also: {p.message}\n"))

def Answer.wrongUse : Answer :=
  ⟨2, "", "", none⟩

def Answer.ofImport : Except Failure Report → Answer
  | .ok report => ⟨0, report.summary ++ "\n", "", none⟩
  | .error (.fault f) => ⟨1, "", failureLines f, none⟩
  | .error e => ⟨1, "", "", some e⟩

def Answer.ofMisuse : Misuse → Answer
  | .wrongUse => .wrongUse
  | .brokenPath => .ofImport (.error .brokenPath)

/-- Run the command in a session of its own, after the work in progress is committed. Paths are
opened by the caller; a directory is no file to import. -/
def runCommand (now : Calendar.Timestamp) (files : String → Run.File)
    (arguments : List String) (s : Session) : Except Failure Answer × Session :=
  match s.settle with
  | .error e => (.error e, s)
  | .ok s =>
    match Invocation.ofArguments arguments with
    | .error misuse => (.ok (.ofMisuse misuse), s)
    | .ok i =>
      let file :=
        if FilePath.isTooLong i.path then ⟨FilePath.shown i.path, .tooLong⟩ else files i.path
      if file.content = .directory then (.ok .wrongUse, s)
      else
        let context := Context.naming now i.options.client i.options.org i.options.user
        let (answer, other) :=
          s.another.importFile (some i.template) file (some i.options.mode) context
        (.ok (.ofImport answer), s.follow other)

end RowLoader.Service
