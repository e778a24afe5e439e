import Wiregen.Emit.Message
import Wiregen.Run.Options
import Wiregen.Schema.OfDescriptor
import Wiregen.Target.PathText
import Wiregen.Target.Pretty

/-!
# Units

The unit of a schema file: its path, and its code as lines under a header that names the file.
-/

namespace Wiregen.Emit

/-- A file that a run writes. -/
structure SourceUnit where
  name : String
  content : String
  deriving DecidableEq, Repr

/-- What options mean for emitted code. -/
def Context.ofOptions (options : Options) : Except Failure Context :=
  match Target.PathText.parse? options.runtimeModule with
  | some runtime => .ok ⟨runtime, options.comments⟩
  | none => .error (.invalidParameter ("runtime_module=" ++ options.runtimeModule))

/-- Work that can fail as work that can end early. -/
def halting {α : Type} (work : Except Failure α) : Reported α := .ofExcept (work.mapError .failed)

/-- What stands above the code of a schema file. -/
def header (file : String) : String :=
  "// @generated by protoc-gen-protocodec. DO NOT EDIT.\n// source: " ++ file ++ "\n\n"

/-- Whether the items are code: where there are any, they name the runtime. -/
def isCode (ctx : Context) (items : List Target.Item) : Bool :=
  items.isEmpty || ctx.runtime.isUsable

/-- The unit of a schema file. -/
def fileUnit (file : Descriptor.File) (options : Options) : Reported SourceUnit := do
  let ctx ← halting (Context.ofOptions options)
  let schema ← halting (Schema.ofDescriptor file)
  let items ← fileItems ctx schema
  if isCode ctx items then
    return {
      name := Naming.unitPath schema.name schema.package
      content := header schema.name ++ Target.pretty items }
  else
    Reported.fail .unparsable

end Wiregen.Emit
