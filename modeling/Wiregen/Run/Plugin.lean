import Wiregen.Run.Generate

/-!
# Plugin requests

The schema compiler sends a request on standard input and reads the response from standard output.
A failure travels in the response.
-/

namespace Wiregen.Run

open Emit (SourceUnit)

/-- What the schema compiler asks for. -/
structure Request where
  /-- The names of the files that units are wanted of. -/
  generate : List String := []
  parameter : Option String := none
  /-- The files, and those they depend on. -/
  files : List Descriptor.File := []

/-- What the schema compiler is given. -/
structure Response where
  error : Option String
  /-- The bits of the features that requests may use: optional scalar fields. -/
  supportedFeatures : Nat := 1
  files : List SourceUnit
  deriving DecidableEq, Repr

/-- The request that bytes encode. -/
def Request.ofBytes (bytes : Wire.Bytes) : Except Descriptor.Unreadable Request := do
  let items ← Descriptor.readItems Descriptor.maxDepth .request bytes
  return {
    generate := items.texts 1
    parameter := items.text? 2
    files := (items.records 15).map Descriptor.File.ofItems }

/-- The response to a request; an error only at a name that no identifier can be made of. -/
def respond (request : Request) : Except String Response :=
  let work : Emit.Reported (List SourceUnit) := do
    let options ← Emit.halting (Options.parse (request.parameter.getD ""))
    units request.files request.generate options
  match work.outcome with
  | .ok files => .ok { error := none, files }
  | .error (.failed failure) => .ok { error := some failure.message, files := [] }
  | .error (.notAnIdentifier name) => .error name

/-! ## Response bytes -/

/-- A field that holds a block. -/
def blockField (number : UInt32) (content : Wire.Bytes) : Wire.Bytes :=
  Wire.encodeKey (Wire.tag number .lengthDelimited).toUInt64 ++ Wire.Delimited.encode content

/-- A field that holds a text. -/
def textField (number : UInt32) (text : String) : Wire.Bytes :=
  blockField number (Wire.Utf8.encode text)

/-- The bytes of a unit in a response. -/
def encodeUnit (unit : SourceUnit) : Wire.Bytes :=
  textField 1 unit.name ++ textField 15 unit.content

/-- The bytes of a response. -/
def Response.encode (response : Response) : Wire.Bytes :=
  (match response.error with
    | some text => textField 1 text
    | none => [])
    ++ Wire.encodeKey (Wire.tag 2 .varint).toUInt64
    ++ Wire.Varint.encode response.supportedFeatures
    ++ response.files.flatMap fun unit => blockField 15 (encodeUnit unit)

end Wiregen.Run
