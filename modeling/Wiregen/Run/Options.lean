import Wiregen.Failure
import Wiregen.Text.Pieces

/-!
# Options of a run

The parameter of a run is a list of settings, `key=value`, with commas between them. White space
around settings, keys and values does not count, nor do empty settings; of several settings of one
key the last counts.
-/

namespace Wiregen

/-- What a run can be told. -/
structure Options where
  /-- The path under which emitted code finds the runtime. -/
  runtimeModule : String := "crate::protobuf_runtime"
  /-- The name of the runtime unit. -/
  runtimeFile : String := "protobuf_runtime.rs"
  /-- Whether comments of the schema become documentation. -/
  comments : Bool := true
  deriving DecidableEq, Repr

namespace Options

/-- The parts of a setting around its first equals sign. -/
def splitSetting : List Char → Option (List Char × List Char)
  | [] => none
  | '=' :: value => some ([], value)
  | c :: cs => (splitSetting cs).map fun (key, value) => (c :: key, value)

/-- The truth value that a text spells. -/
def readBool? (text : String) : Option Bool :=
  if text = "true" then some true else if text = "false" then some false else none

/-- The options with one setting applied. -/
def withSetting? (options : Options) (setting : List Char) : Option Options :=
  match splitSetting setting with
  | none => none
  | some (key, value) =>
    let value := String.ofList (Text.trim value)
    match String.ofList (Text.trim key) with
    | "runtime_module" => some { options with runtimeModule := value }
    | "runtime_file" => some { options with runtimeFile := value }
    | "comments" => (readBool? value).map fun comments => { options with comments }
    | _ => none

/-- The options with settings applied in order; the first that is none is the failure. -/
def applyAll (options : Options) : List (List Char) → Except Failure Options
  | [] => .ok options
  | setting :: others =>
    match options.withSetting? setting with
    | some options => applyAll options others
    | none => .error (.invalidParameter (String.ofList setting))

/-- The settings of a parameter. -/
def settings (parameter : List Char) : List (List Char) :=
  ((Text.pieces ',' parameter).map Text.trim).filter (!·.isEmpty)

/-- The options that a parameter spells. -/
def parse (parameter : String) : Except Failure Options :=
  applyAll {} (settings parameter.toList)

end Options

end Wiregen
