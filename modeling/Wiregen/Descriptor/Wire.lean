import Wiregen.Descriptor.Layout
import Wiregen.Wire.Basic
import Wiregen.Wire.Key
import Wiregen.Wire.Number

/-!
# Descriptor messages on the wire

The strict reading of descriptor files: numbers and keys must fit their words, payloads must be of
their field's kind, texts must be UTF-8, and messages may not be nested too deep. Fields that a
message does not have are passed over, groups included.
-/

namespace Wiregen.Descriptor

open Wire (Bytes DecodeError WireType)

/-- Why a descriptor file is refused. -/
inductive Unreadable where
  | wire (error : DecodeError)
  /-- A number of more than 64 bits. -/
  | wideNumber
  /-- A key of more than 32 bits, with field number zero or with wire type 6 or 7. -/
  | badKey
  | wrongWireType
  | unbalancedGroup
  | tooDeep
  deriving DecidableEq, Repr

/-- Takes the bytes from its position on; gives its value and the bytes it leaves. -/
abbrev StrictReader (α : Type) := Bytes → Except Unreadable (α × Bytes)

/-- A reader of the lenient kind as a strict one. -/
def strict {α : Type} (r : Wire.Reader α) : StrictReader α := fun input =>
  (r input).mapError .wire

/-! ## Numbers, keys and blocks -/

/-- A varint that fits a word of 64 bits. -/
def readNumber : StrictReader Nat := fun input => do
  let (n, rest) ← strict (Wire.Varint.groups Wire.Varint.maxBytes) input
  if n < UInt64.size then return (n, rest) else throw .wideNumber

/-- How a record goes on after its key. -/
inductive Framing where
  | payload (wire : WireType)
  | groupStart
  | groupEnd
  deriving DecidableEq, Repr

/-- The framing of a wire type number. -/
def Framing.ofNumber? : Nat → Option Framing
  | 3 => some .groupStart
  | 4 => some .groupEnd
  | n => (WireType.ofNumber? n).map .payload

/-- The field number and framing at the front of a record. -/
def readKey : StrictReader (Nat × Framing) := fun input => do
  let (key, rest) ← readNumber input
  match Framing.ofNumber? (key % 8) with
  | some framing => if key < UInt32.size ∧ 0 < key / 8 then return ((key / 8, framing), rest)
                    else throw .badKey
  | none => throw .badKey

/-- A block that carries its length. -/
def readBlock : StrictReader Bytes := fun input => do
  let (n, rest) ← readNumber input
  strict (Wire.take n) rest

/-- A block of UTF-8. -/
def readText : StrictReader String := fun input => do
  let (bytes, rest) ← readBlock input
  match Wire.Utf8.decode? bytes with
  | some text => return (text, rest)
  | none => throw (.wire .invalidUtf8)

/-! ## Unknown fields -/

/-- Passes over records up to the end of the group with the given number. -/
def skipGroup (skip : Nat → Framing → Bytes → Except Unreadable Bytes) (number : Nat)
    (input : Bytes) : Except Unreadable Bytes :=
  match readKey input with
  | .error e => .error e
  | .ok ((n, .groupEnd), rest) => if n = number then .ok rest else .error .unbalancedGroup
  | .ok ((n, framing), rest) =>
    match skip n framing rest with
    | .error e => .error e
    | .ok rest =>
      if rest.length < input.length then skipGroup skip number rest else .error .unbalancedGroup
termination_by input.length

/-- Passes over the rest of a record. Each level of groups takes one from the depth, and at depth
zero nothing may be passed over at all. -/
def skip : (depth number : Nat) → Framing → Bytes → Except Unreadable Bytes
  | 0, _, _, _ => .error .tooDeep
  | _ + 1, _, .payload .varint, input => (·.2) <$> readNumber input
  | _ + 1, _, .payload .fixed64, input => (·.2) <$> strict (Wire.take 8) input
  | _ + 1, _, .payload .fixed32, input => (·.2) <$> strict (Wire.take 4) input
  | _ + 1, _, .payload .lengthDelimited, input => (·.2) <$> readBlock input
  | depth + 1, number, .groupStart, input => skipGroup (skip depth) number input
  | _ + 1, _, .groupEnd, _ => .error .unbalancedGroup

/-! ## Messages -/

/-- A value that was read. Payloads that nobody asks for leave none. -/
inductive Item where
  | number (n : Nat)
  | text (s : String)
  | record (items : List (Nat × Item))

/-- The values of a message with their field numbers, in the order of the input. -/
abbrev Items := List (Nat × Item)

/-- The numbers of a block that holds them side by side. -/
def readNumbers (block : Bytes) : Except Unreadable (List Item) :=
  Wire.untilEnd .badKey
    (fun read input => do
      let (n, rest) ← readNumber input
      return (read ++ [.number n], rest))
    [] block

/-- The values of a record whose payload is of the given kind; `nested` reads a message. -/
def readPayload (nested : Kind → Bytes → Except Unreadable Items) :
    Payload → WireType → StrictReader (List Item)
  | .number, .varint, input | .numbers, .varint, input => do
    let (n, rest) ← readNumber input
    return ([.number n], rest)
  | .numbers, .lengthDelimited, input => do
    let (block, rest) ← readBlock input
    return (← readNumbers block, rest)
  | .double, .fixed64, input => do
    let (_, rest) ← strict (Wire.take 8) input
    return ([], rest)
  | .text, .lengthDelimited, input => do
    let (text, rest) ← readText input
    return ([.text text], rest)
  | .bytes, .lengthDelimited, input => do
    let (_, rest) ← readBlock input
    return ([], rest)
  | .message kind, .lengthDelimited, input => do
    let (block, rest) ← readBlock input
    return ([.record (← nested kind block)], rest)
  | _, _, _ => throw .wrongWireType

/-- The values of the record at the front of the input, added to those before it. -/
def readRecord (nested : Kind → Bytes → Except Unreadable Items) (depth : Nat) (kind : Kind)
    (items : Items) : StrictReader Items := fun input => do
  let ((number, framing), rest) ← readKey input
  match kind.payload? number, framing with
  | none, framing => return (items, ← skip depth number framing rest)
  | some payload, .payload wire =>
    let (values, rest) ← readPayload nested payload wire rest
    return (items ++ values.map (number, ·), rest)
  | some _, _ => throw .wrongWireType

/-- The values of a message in which messages may be nested to the given depth. -/
def readItems : (depth : Nat) → Kind → Bytes → Except Unreadable Items
  | 0, kind, input =>
    Wire.untilEnd .badKey (readRecord (fun _ _ => throw .tooDeep) 0 kind) [] input
  | depth + 1, kind, input =>
    Wire.untilEnd .badKey (readRecord (readItems depth) (depth + 1) kind) [] input

/-- How deep messages may be nested in a descriptor file, itself not counted. -/
def maxDepth : Nat := 100

end Wiregen.Descriptor
