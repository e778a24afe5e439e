import Wiregen.Run.Disk
import Wiregen.Run.Plugin

/-!
# The command line

Without arguments the program is a plugin of the schema compiler. With a descriptor set and an
output directory, and perhaps a parameter, it writes the units of a run as files. Anything else is
answered with how it is used.
-/

namespace Wiregen.Run

open Emit (SourceUnit)
open Wire (Bytes)

/-- What the arguments ask for. -/
inductive Task where
  | plugin
  /-- Units of the descriptor set at a path, where a dash is the standard input. -/
  | writeUnits (set directory parameter : String)
  | showUsage
  deriving DecidableEq, Repr

/-- The task of the arguments. -/
def Task.ofArguments : List String → Task
  | [] => .plugin
  | [set, directory] => .writeUnits set directory ""
  | [set, directory, parameter] => .writeUnits set directory parameter
  | _ => .showUsage

/-- How the program is used. -/
def usage (program : String) : String :=
  String.join
    (["protocodec code generator",
      "",
      "USAGE:",
      "  protoc --plugin=protoc-gen-protocodec=" ++ program ++ " --protocodec_out=<dir> <files>",
      "  " ++ program ++ " <descriptor_set.pb> <out_dir> [parameter]",
      "  " ++ program ++ " - <out_dir> [parameter] < descriptor_set.pb",
      "",
      "PARAMETER (comma separated):",
      "  runtime_module=<path>   module generated code calls (default crate::protobuf_runtime)",
      "  runtime_file=<name>     runtime output file (default protobuf_runtime.rs)",
      "  comments=<true|false>   copy .proto comments onto generated items",
      "",
      "ENVIRONMENT:",
      "  PROTOCODEC_LOG          tracing filter, e.g. debug (default warn)"].map (· ++ "\n"))

/-! ## Errors -/

/-- What a failed invocation says: what failed, and what made it fail. -/
structure Complaint where
  headline : String
  cause : Option String := none
  deriving DecidableEq, Repr

/-- The text of a complaint. -/
def Complaint.text (complaint : Complaint) : String :=
  "Error: " ++ complaint.headline
    ++ (match complaint.cause with
      | some cause => "\n\nCaused by:\n    " ++ cause
      | none => "")
    ++ "\n"

/-- The complaint about a failed run. -/
def Complaint.ofFailure (failure : Failure) : Complaint :=
  { headline := failure.headline, cause := failure.cause?.map (·.message) }

/-! ## Writing units -/

/-- The line about a unit that was written. -/
def writtenLine (path : String) : String := "Generated " ++ path ++ "\n"

/-- What writing units leaves behind: the disk, what went to the standard streams, and the complaint
about the unit that could not be written. -/
structure Written where
  disk : Disk
  stdout : Bytes := []
  stderr : String := ""
  complaint : Option Complaint := none

/-- A unit's content where a stream got it. -/
def sentTo (stream : Stream) (receiver : Option Stream) (content : String) : String :=
  if receiver = some stream then content else ""

/-- Writes units below a directory, in order, up to the first that cannot be written, with a line
about each. -/
def writeUnits (disk : Disk) (directory : String) : List SourceUnit → Written
  | [] => { disk }
  | unit :: others =>
    let path := joinPath directory unit.name
    match disk.makeParents path with
    | .error error => { disk, complaint := some { headline := error.message } }
    | .ok disk =>
      match disk.write path (Wire.Utf8.encode unit.content) with
      | .error error =>
        { disk,
          complaint := some { headline := "couldn't write " ++ path, cause := some error.message } }
      | .ok (disk, receiver) =>
        let rest := writeUnits disk directory others
        { rest with
          stdout := Wire.Utf8.encode (sentTo .output receiver unit.content) ++ rest.stdout
          stderr := sentTo .errors receiver unit.content ++ writtenLine path ++ rest.stderr }

/-! ## Invocations -/

/-- What an invocation leaves behind. -/
structure Outcome where
  disk : Disk
  stdout : Bytes := []
  stderr : String := ""
  exitCode : UInt32 := 0

/-- The outcome of a complaint before anything is written. -/
def refuse (disk : Disk) (complaint : Complaint) : Outcome :=
  { disk, stderr := complaint.text, exitCode := 1 }

/-- A plugin's response to the request on standard input. -/
def runPlugin (disk : Disk) (stdin : Bytes) : Except String Outcome :=
  match Request.ofBytes stdin with
  | .error _ =>
    .ok (refuse disk
      { headline := "couldn't parse CodeGeneratorRequest, run this as a protoc plugin" })
  | .ok request => (respond request).map fun response => { disk, stdout := response.encode }

/-- Writes the units of a descriptor set. Nothing is written unless there is a unit for every
file. -/
def runSet (disk : Disk) (set : Bytes) (directory parameter : String) : Except String Outcome :=
  match (setUnits set parameter).outcome with
  | .error (.notAnIdentifier name) => .error name
  | .error (.failed failure) => .ok (refuse disk (.ofFailure failure))
  | .ok units =>
    let written := writeUnits disk directory units
    .ok
      { disk := written.disk
        stdout := written.stdout
        stderr := written.stderr ++ (written.complaint.map (·.text)).getD ""
        exitCode := if written.complaint.isSome then 1 else 0 }

/-- The outcome of an invocation; an error only at a name that no identifier can be made of. -/
def invoke (program : String) (arguments : List String) (disk : Disk) (stdin : Bytes) :
    Except String Outcome :=
  match Task.ofArguments arguments with
  | .plugin => runPlugin disk stdin
  | .showUsage => .ok { disk, stderr := usage program }
  | .writeUnits set directory parameter =>
    if set = "-" then runSet disk stdin directory parameter
    else
      match disk.read stdin set with
      | .ok content => runSet disk content directory parameter
      | .error error =>
        .ok (refuse disk
          { headline := "couldn't read " ++ set, cause := some error.message })

end Wiregen.Run
