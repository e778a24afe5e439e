import Wiregen.Emit.Reported
import Wiregen.Naming
import Wiregen.Schema.Basic
import Wiregen.Schema.FieldType
import Wiregen.Target.Syntax

/-!
# Values in emitted code

How the values of a field are typed, what they are before one is read, and the code that writes and
reads one. Scalars go through the runtime, messages through the codec emitted for them.
-/

namespace Wiregen.Emit

open Schema (FieldType Shape)
open Target (Expr Ident Path Stmt Ty)
open Wire (Scalar WireType)

/-! ## Scalars -/

/-- The name of a scalar in the schema language. -/
def scalarName : Scalar → String
  | .double => "double"
  | .float => "float"
  | .int64 => "int64"
  | .uint64 => "uint64"
  | .int32 => "int32"
  | .fixed64 => "fixed64"
  | .fixed32 => "fixed32"
  | .bool => "bool"
  | .string => "string"
  | .bytes => "bytes"
  | .uint32 => "uint32"
  | .enum => "enum"
  | .sfixed32 => "sfixed32"
  | .sfixed64 => "sfixed64"
  | .sint32 => "sint32"
  | .sint64 => "sint64"

/-- The type of a scalar's values. -/
def scalarType : Scalar → Ty
  | .double => .named "f64"
  | .float => .named "f32"
  | .int64 | .sfixed64 | .sint64 => .named "i64"
  | .uint64 | .fixed64 => .named "u64"
  | .int32 | .enum | .sfixed32 | .sint32 => .named "i32"
  | .uint32 | .fixed32 => .named "u32"
  | .bool => .named "bool"
  | .string => .named "String"
  | .bytes => .vec (.named "u8")

/-- The default of a scalar. -/
def scalarDefault : Scalar → Expr
  | .double | .float => .literal "0.0"
  | .bool => .var "false"
  | .string => .callPath (.ofNames ["String", "new"]) []
  | .bytes => .callPath (.ofNames ["Vec", "new"]) []
  | .int64 | .uint64 | .int32 | .fixed64 | .fixed32 | .uint32 | .enum | .sfixed32 | .sfixed64
  | .sint32 | .sint64 => .number 0

/-- The runtime function that writes a scalar. -/
def encoderName (s : Scalar) : String := "encode_" ++ scalarName s

/-- The runtime function that reads a scalar. -/
def decoderName (s : Scalar) : String := "decode_" ++ scalarName s

/-- Whether the writer borrows the value. -/
def isBorrowed : Scalar → Bool
  | .string | .bytes => true
  | _ => false

/-! ## Value forms -/

/-- What the values of a field are in emitted code. -/
inductive ValueForm where
  | scalar (s : Scalar)
  /-- A message of the type, written and read by the codec. -/
  | message (type codec : Ident)
  deriving DecidableEq, Repr

namespace ValueForm

/-- How values of the form are framed. -/
def wireType : ValueForm → WireType
  | .scalar s => s.wireType
  | .message .. => .lengthDelimited

/-- The type of the values. -/
def type : ValueForm → Ty
  | .scalar s => scalarType s
  | .message type _ => .named type.text

/-- The value before one is read. -/
def default : ValueForm → Expr
  | .scalar s => scalarDefault s
  | .message .. => .callPath (.ofNames ["Default", "default"]) []

/-- The form of a type by its number and, for a message, its name. `field` is who asks. -/
def resolve (field : String) (code : Int32) (typeName : Option String) : Except Halt ValueForm :=
  match FieldType.ofCode code with
  | .error failure => .error (.failed failure)
  | .ok (.scalar s) => .ok (.scalar s)
  | .ok .message =>
    match typeName.bind Naming.localName? with
    | none => .error (.failed (.unresolvedType field (typeName.getD "")))
    | some name => do
      let type ← identifier name (Naming.messageIdent? name)
      let codec ← identifier name (Naming.codecIdent? name)
      return .message type codec

/-- Writes the key, then the value at a place, into a buffer. -/
def encode (form : ValueForm) (runtime : Path) (buffer : Expr) (key : UInt32) (place : Expr) :
    List Stmt :=
  let writeKey : Stmt :=
    .run (.callPath (runtime.child "encode_key") [buffer, .number key.toNat])
  match form with
  | .scalar s =>
    let value := if isBorrowed s then .borrow false place else place
    [writeKey, .run (.callPath (runtime.child (encoderName s)) [buffer, value])]
  | .message _ codec =>
    let nested : Expr := .callPath (.ofNames [codec.text, "encode"]) [.borrow false place]
    [writeKey, .run (.callPath (runtime.child "encode_bytes") [buffer, .borrow false nested])]

/-- Binds the value read from `input` at `position` to `decoded`, and the position behind it to
`behind`. -/
def decode (form : ValueForm) (runtime : Path) (input position behind : String) : List Stmt :=
  let source := [Expr.var input, Expr.var position]
  match form with
  | .scalar s =>
    [.bind (.pair "decoded" behind) none
      (.propagate (.callPath (runtime.child (decoderName s)) source))]
  | .message _ codec =>
    [.bind (.pair "nested" behind) none
      (.propagate (.callPath (runtime.child "decode_length_delimited") source)),
    .bind (.name false "decoded") none
      (.propagate (.callPath (.ofNames [codec.text, "decode"]) [.var "nested"]))]

end ValueForm

/-- The shape of a field. The key of a map is never a message, so it has no type name. -/
def shapeOf (field : Schema.Field) : Except Halt (Shape ValueForm) :=
  match field.mapEntry with
  | some entry => do
    let key ← ValueForm.resolve field.name entry.keyType none
    let value ← ValueForm.resolve field.name entry.valueType entry.valueTypeName
    return .map key value
  | none => do
    let value ← ValueForm.resolve field.name field.typeCode field.typeName
    return if field.label = .repeated then .repeated value else .singular value

end Wiregen.Emit
