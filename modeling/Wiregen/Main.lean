import Wiregen.Run.CommandLine

/-!
# The program

Reads what an invocation needs, lets `Wiregen.Run` decide, and carries out what it decided.
-/

namespace Wiregen

open Run (Complaint Task)

/-- All bytes of the standard input. -/
def readInput : IO Wire.Bytes := do
  return (← (← IO.getStdin).readBinToEnd).data.toList

/-- The text of an error of the system with its number. -/
def numberedText (number : UInt32) (text : String) : String :=
  text ++ " (os error " ++ toString number.toNat ++ ")"

/-- The text of an error of the system. -/
def systemText : IO.Error → String
  | .noFileOrDirectory _ number text | .interrupted _ number text => numberedText number text
  | .alreadyExists _ number text | .inappropriateType _ number text
  | .invalidArgument _ number text | .permissionDenied _ number text
  | .resourceExhausted _ number text | .noSuchThing _ number text => numberedText number text
  | .otherError number text | .resourceBusy number text
  | .hardwareFault number text => numberedText number text
  | error => toString error

/-- Carries out an operation on a path that is not refused as it is written; gives the text of the
error if there is one. -/
def attempt (path : String) (operation : IO Unit) : IO (Option String) :=
  match Run.pathError? path with
  | some error => return some error.message
  | none => do
    match ← operation.toBaseIO with
    | .ok () => return none
    | .error error => return some (systemText error)

/-- Makes a directory unless there is one. -/
def ensureDirectory (path : String) : IO Unit := do
  try IO.FS.createDir path
  catch error =>
    try IO.FS.createDirAll path
    catch _ => throw error

/-- Makes a directory at the first path. The other paths are those of the directories above it, the
nearest first, and get one as far as that is needed. -/
def ensureDirectories : List String → IO Unit
  | [] => return
  | path :: above => do
    try IO.FS.createDir path
    catch
      | .noFileOrDirectory .. => do
        ensureDirectories above
        ensureDirectory path
      | _ => ensureDirectory path

/-- Says what went wrong, and gives the exit code of a failure. -/
def complain (complaint : Complaint) : IO UInt32 := do
  IO.eprint complaint.text
  return 1

/-- The end of a run at a name that no identifier can be made of. -/
def abandon (name : String) : IO UInt32 := do
  IO.eprintln (Text.quoted name ++ " is not a valid identifier")
  return 134

/-- Answers a request of the schema compiler. -/
def plugin : IO UInt32 := do
  match Run.runPlugin (.holding []) (← readInput) with
  | .error name => abandon name
  | .ok outcome =>
    (← IO.getStdout).write ⟨outcome.stdout.toArray⟩
    IO.eprint outcome.stderr
    return outcome.exitCode

/-- Writes units below a directory, up to the first that cannot be written. -/
def saveUnits (directory : String) : List Emit.SourceUnit → IO UInt32
  | [] => return 0
  | unit :: others => do
    let path := Run.joinPath directory unit.name
    let parents := Run.parentPaths path
    if let some error ← attempt (parents.head?.getD ".") (ensureDirectories parents) then
      return ← complain { headline := error }
    if let some error ← attempt path (IO.FS.writeFile path unit.content) then
      return ← complain { headline := "couldn't write " ++ path, cause := some error }
    IO.eprint (Run.writtenLine path)
    saveUnits directory others

/-- Writes the units of a descriptor set. -/
def saveSet (set : Wire.Bytes) (directory parameter : String) : IO UInt32 := do
  match (Run.setUnits set parameter).outcome with
  | .error (.notAnIdentifier name) => abandon name
  | .error (.failed failure) => complain (.ofFailure failure)
  | .ok units => saveUnits directory units

/-- Carries out the task of the arguments. -/
def run (program : String) (arguments : List String) : IO UInt32 := do
  match Task.ofArguments arguments with
  | .plugin => plugin
  | .showUsage =>
    IO.eprint (Run.usage program)
    return 0
  | .writeUnits "-" directory parameter => saveSet (← readInput) directory parameter
  | .writeUnits set directory parameter =>
    match ← (IO.FS.withFile set .read fun file => file.readBinToEnd).toBaseIO with
    | .ok content => saveSet content.data.toList directory parameter
    | .error error =>
      complain { headline := "couldn't read " ++ set, cause := some (systemText error) }

end Wiregen

/-- The program's entry. -/
def main (arguments : List String) : IO UInt32 := Wiregen.run "protoc-gen-protocodec" arguments
