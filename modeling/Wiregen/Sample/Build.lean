import Wiregen.Run.CommandLine
import Wiregen.Sample.Schema

/-!
# The build of the sample

Writes the unit of the sample schema and the runtime unit into an output directory, over whatever is
there, and tells the build tool what the result depends on.
-/

namespace Wiregen.Sample

open Run (Disk Outcome)

/-- What the build tool reads on standard output. -/
def buildNotice : String := "cargo:rerun-if-changed=build.rs\n"

/-- The build in a working directory that is the output directory; an error only at a name that no
identifier can be made of. -/
def build (disk : Disk) : Except String Outcome :=
  let stdout := Wire.Utf8.encode buildNotice
  match (Run.units [file] [file.nameText] {}).outcome with
  | .error (.notAnIdentifier name) => .error name
  | .error (.failed failure) => .ok (Run.refuse disk (.ofFailure failure))
  | .ok units =>
    let written := Run.writeUnits disk "" units
    match written.complaint with
    | none => .ok { disk := written.disk, stdout := stdout }
    | some complaint => .ok { Run.refuse written.disk complaint with stdout }

end Wiregen.Sample
