import Wiregen.Descriptor.OfWire
import Wiregen.Emit.RuntimeText
import Wiregen.Emit.Unit

/-!
# Runs

A run makes the units of the requested schema files, in the order of the schema, and one runtime
unit after them. The first file that fails is the failure of the run.
-/

namespace Wiregen.Run

open Emit (Reported SourceUnit)

/-- The unit of a file, a failure named after it. -/
def namedUnit (options : Options) (file : Descriptor.File) : Reported SourceUnit :=
  let work := Emit.fileUnit file options
  { work with
    outcome := work.outcome.mapError fun
      | .failed failure => .failed (.inFile file.nameText failure)
      | halt => halt }

/-- The runtime unit. -/
def runtimeUnit (options : Options) : SourceUnit := ⟨options.runtimeFile, Emit.runtimeText⟩

/-- The units of a run over the files with the given names. -/
def units (files : List Descriptor.File) (names : List String) (options : Options) :
    Reported (List SourceUnit) := do
  let requested := files.filter fun file => names.contains file.nameText
  let units ← Reported.each (namedUnit options) requested
  return units ++ [runtimeUnit options]

/-- The units of a run over every file of a descriptor set. -/
def setUnits (set : Wire.Bytes) (parameter : String) : Reported (List SourceUnit) := do
  let files ← .ofExcept ((Descriptor.readSet set).mapError fun _ => .failed .unreadableSet)
  let options ← Emit.halting (Options.parse parameter)
  units files (files.map (·.nameText)) options

end Wiregen.Run
