import Wiregen.Wire.Number

/-!
# Keys and the framing of payloads

A record's key is a varint whose low three bits, the wire type, say how long its payload is and
whose other bits are the field number. Payloads without a length of their own are blocks: a varint
length and that many bytes. Strings are blocks of UTF-8.
-/

namespace Wiregen.Wire.Delimited

/-- A block of the given bytes. -/
def encode (content : Bytes) : Bytes := Varint.encode content.length ++ content

/-- The content of the block at the front of the input. -/
def read : Reader Bytes := Varint.read.andThen fun n => take n.toNat

end Wiregen.Wire.Delimited

namespace Wiregen.Wire.Utf8

/-- The UTF-8 bytes of a text. -/
def encode (s : String) : Bytes := s.toUTF8.data.toList

/-- The text whose UTF-8 these bytes are. -/
def decode? (bytes : Bytes) : Option String := String.fromUTF8? ⟨bytes.toArray⟩

/-- The text of the block at the front of the input. The whole block is there before its content is
looked at, so a short block is an overflow whatever it holds. -/
def read : Reader String := Delimited.read.andThen fun bytes rest =>
  match decode? bytes with
  | some s => .ok (s, rest)
  | none => .error .invalidUtf8

end Wiregen.Wire.Utf8

namespace Wiregen.Wire

/-- The four ways a payload is framed. -/
inductive WireType where
  | varint
  | fixed64
  | lengthDelimited
  | fixed32
  deriving DecidableEq, Repr

namespace WireType

/-- The low three bits of a key of this wire type. -/
def number : WireType → UInt32
  | .varint => 0
  | .fixed64 => 1
  | .lengthDelimited => 2
  | .fixed32 => 5

/-- The wire type of a number, if it is one. -/
def ofNumber? : Nat → Option WireType
  | 0 => some .varint
  | 1 => some .fixed64
  | 2 => some .lengthDelimited
  | 5 => some .fixed32
  | _ => none

/-- Whether values of this wire type may stand side by side in one block. Those that carry a length
of their own may not. -/
def packable (w : WireType) : Bool := w != .lengthDelimited

end WireType

/-- The key of a field as a word of 32 bits: what a field number has above bit 28 is lost. -/
def tag (number : UInt32) (wire : WireType) : UInt32 := number <<< 3 ||| wire.number

/-- The field number and wire type of a key. -/
def splitTag (tag : UInt32) : UInt32 × Option WireType :=
  (tag >>> 3, WireType.ofNumber? (tag &&& 7).toNat)

/-- The bytes of a key. -/
def encodeKey (key : UInt64) : Bytes := Varint.encode key.toNat

/-- The key at the front of the input. -/
def readKey : Reader UInt64 := Varint.read

/-- The field number of the key in a map entry. -/
def mapKeyNumber : UInt32 := 1

/-- The field number of the value in a map entry. -/
def mapValueNumber : UInt32 := 2

/-- The low three bits of a key, as they stand in it. -/
def wireBits (key : UInt64) : UInt64 := key &&& 7

/-- Passes over the payload of a record whose key has these low bits. -/
def skip (wire : UInt64) : Reader Unit :=
  match WireType.ofNumber? wire.toNat with
  | some .varint => Varint.read.map fun _ => ()
  | some .fixed64 => (take 8).map fun _ => ()
  | some .lengthDelimited => Delimited.read.map fun _ => ()
  | some .fixed32 => (take 4).map fun _ => ()
  | none => fun _ => .error (.unknownWireType wire)

end Wiregen.Wire
