import Wiregen.Failure
import Wiregen.Wire.Scalar

/-!
# Types and shapes of fields

The numbers that descriptors give to field types. Number 10, the group, is a type of the schema
language that has no codec. A field of any type has a shape as well: it holds one value, a list of
values, or the keys and values of a map in two lists.
-/

namespace Wiregen.Schema

/-- The shape of a field whose values are described by `α`. -/
inductive Shape (α : Type) where
  | singular (value : α)
  | repeated (element : α)
  | map (key value : α)
  deriving DecidableEq, Repr

/-- The shape with its descriptions of values replaced, if each can be. -/
def Shape.traverse {α β : Type} (f : α → Option β) : Shape α → Option (Shape β)
  | .singular value => (f value).map .singular
  | .repeated element => (f element).map .repeated
  | .map key value =>
    match f key, f value with
    | some k, some v => some (.map k v)
    | _, _ => none

/-- A field type that has a codec. -/
inductive FieldType where
  | scalar (s : Wire.Scalar)
  /-- A message, which the field names. -/
  | message
  deriving DecidableEq, Repr

namespace FieldType

/-- The field type of a number, if it has a codec. -/
def ofCode? (code : Int32) : Option FieldType :=
  match code.toInt with
  | 1 => some (.scalar .double)
  | 2 => some (.scalar .float)
  | 3 => some (.scalar .int64)
  | 4 => some (.scalar .uint64)
  | 5 => some (.scalar .int32)
  | 6 => some (.scalar .fixed64)
  | 7 => some (.scalar .fixed32)
  | 8 => some (.scalar .bool)
  | 9 => some (.scalar .string)
  | 11 => some .message
  | 12 => some (.scalar .bytes)
  | 13 => some (.scalar .uint32)
  | 14 => some (.scalar .enum)
  | 15 => some (.scalar .sfixed32)
  | 16 => some (.scalar .sfixed64)
  | 17 => some (.scalar .sint32)
  | 18 => some (.scalar .sint64)
  | _ => none

/-- The field type of a number; a failure where it has no codec. -/
def ofCode (code : Int32) : Except Failure FieldType :=
  match ofCode? code with
  | some type => .ok type
  | none => .error (.unsupportedFieldType code)

/-- How values of the type are framed. -/
def wireType : FieldType → Wire.WireType
  | .scalar s => s.wireType
  | .message => .lengthDelimited

end FieldType

end Wiregen.Schema
