import Wiregen.Wire.Key
import Wiregen.Wire.Number

/-!
# Scalar field types

The fifteen scalar types of the schema language and its enumerations, with the values they carry,
the bytes of a value and the reader of one. Floating point values are bit patterns: nothing is ever
computed with them, and a pattern goes through unchanged, not-a-number payloads included.
-/

namespace Wiregen.Wire

/-- A field type whose values have a form of their own. -/
inductive Scalar where
  | double | float
  | int64 | uint64 | int32
  | fixed64 | fixed32
  | bool | string | bytes
  | uint32 | enum
  | sfixed32 | sfixed64
  | sint32 | sint64
  deriving DecidableEq, Repr

namespace Scalar

/-- The values of a scalar type. -/
@[reducible] def Carrier : Scalar → Type
  | .double | .uint64 | .fixed64 => UInt64
  | .float | .uint32 | .fixed32 => UInt32
  | .int64 | .sfixed64 | .sint64 => Int64
  | .int32 | .enum | .sfixed32 | .sint32 => Int32
  | .bool => Bool
  | .string => String
  | .bytes => Bytes

/-- How a value of the type is framed. -/
def wireType : Scalar → WireType
  | .double | .fixed64 | .sfixed64 => .fixed64
  | .float | .fixed32 | .sfixed32 => .fixed32
  | .string | .bytes => .lengthDelimited
  | .int64 | .uint64 | .int32 | .bool | .uint32 | .enum | .sint32 | .sint64 => .varint

/-- The value a field has before one is read: zero, false, or nothing at all. -/
def default : (s : Scalar) → s.Carrier
  | .double | .uint64 | .fixed64 => (0 : UInt64)
  | .float | .uint32 | .fixed32 => (0 : UInt32)
  | .int64 | .sfixed64 | .sint64 => (0 : Int64)
  | .int32 | .enum | .sfixed32 | .sint32 => (0 : Int32)
  | .bool => false
  | .string => ""
  | .bytes => []

/-- A signed number as the varint of its two's complement of 64 bits, so that every negative number
takes ten bytes. -/
def encodeSigned (z : Int) : Bytes := Varint.encode (z % UInt64.size).toNat

/-- The bytes of a value. -/
def encode : (s : Scalar) → s.Carrier → Bytes
  | .double, v | .fixed64, v => Fixed.encode 8 v.toNat
  | .sfixed64, v => Fixed.encode 8 v.toUInt64.toNat
  | .float, v | .fixed32, v => Fixed.encode 4 v.toNat
  | .sfixed32, v => Fixed.encode 4 v.toUInt32.toNat
  | .uint64, v | .uint32, v => Varint.encode v.toNat
  | .int64, v | .int32, v | .enum, v => encodeSigned v.toInt
  | .sint64, v | .sint32, v => Varint.encode (Zigzag.index v.toInt)
  | .bool, v => [if v then 1 else 0]
  | .string, v => Delimited.encode (Utf8.encode v)
  | .bytes, v => Delimited.encode v

/-- The value at the front of the input. A varint wider than the type is cut to the type's bits; a
truth value is whether it is zero. -/
def read : (s : Scalar) → Reader s.Carrier
  | .double | .fixed64 => (Fixed.read 8).map UInt64.ofNat
  | .sfixed64 => (Fixed.read 8).map Int64.ofNat
  | .float | .fixed32 => (Fixed.read 4).map UInt32.ofNat
  | .sfixed32 => (Fixed.read 4).map Int32.ofNat
  | .uint64 => Varint.read
  | .uint32 => Varint.read.map UInt64.toUInt32
  | .int64 => Varint.read.map fun v => Int64.ofNat v.toNat
  | .int32 | .enum => Varint.read.map fun v => Int32.ofNat v.toNat
  | .sint64 => Varint.read.map fun v => Int64.ofInt (Zigzag.atIndex v.toNat)
  | .sint32 => Varint.read.map fun v => Int32.ofInt (Zigzag.atIndex v.toUInt32.toNat)
  | .bool => Varint.read.map (· != 0)
  | .string => Utf8.read
  | .bytes => Delimited.read

end Scalar

end Wiregen.Wire
