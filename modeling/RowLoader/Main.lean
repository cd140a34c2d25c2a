import RowLoader.Service.CommandLine
import RowLoader.UniqueId
import Std.Time.DateTime.Timestamp

/-!
The command-line program: imports one file into a fresh store that holds the tables of the dictionary
and nothing else, and prints what came of it.
-/

namespace RowLoader

open RowLoader.Calendar RowLoader.Service

def momentAfterEpoch (seconds : Nat) : Timestamp :=
  let (year, month, day) := fieldsOfDayNumber (seconds / 86400 + 719163)
  let rest := seconds % 86400
  ⟨⟨year, month, day⟩, rest / 3600, rest / 60 % 60, rest % 60, 0, none⟩

/-- What a path leads to; a path that cannot be read counts as missing. -/
def openPath (path : String) : IO Source.Content := do
  try
    if ← (← IO.FS.realPath path).isDir then return .directory
    else return .bytes (← IO.FS.readBinFile path).toList
  catch _ => return .missing

end RowLoader

open RowLoader RowLoader.Service in
def main (arguments : List String) : IO UInt32 := do
  let content ← openPath (((Invocation.ofArguments arguments).toOption.map (·.path)).getD "")
  let seed ← IO.rand 0 (Nat.pow 2 62)
  let now := momentAfterEpoch (← Std.Time.Timestamp.now).toSecondsSinceUnixEpoch.val.toNat
  let session := Session.start (Dictionary.emptyStore now) fun n =>
    UniqueId.ofNumber (seed * Nat.pow 2 60 + n)
  match (runCommand now (fun p => ⟨FilePath.shown p, content⟩) arguments session).1 with
  | .ok answer =>
    IO.print answer.output
    IO.eprint answer.errors
    return UInt32.ofNat answer.exit
  | .error e =>
    IO.eprintln e.message
    return 1
