import Wiregen.Codec.Encode

/-!
# Reading messages

A message is read record by record. The key of a record is looked for among the fields: one value
replaces what the slot held, values of lists are appended, a map entry appends one key and one
value, and the record of an unknown key is passed over. A message in a message is read from its
payload alone, which is shorter than the record it comes from, and so reading comes to an end.
-/

namespace Wiregen.Codec

open Schema (Shape)
open Wire (Bytes DecodeError Reader mapKeyNumber mapValueNumber tag untilEnd)

variable {c : Catalog}

/-- The reading of messages from their payloads. -/
abbrev Nested (c : Catalog) := (i : Fin c.size) → Bytes → Except DecodeError (Message c i)

/-- The message whose payload is the block at the front of the input. -/
def readMessage (nested : Nested c) (i : Fin c.size) : Reader (Message c i) :=
  Wire.Delimited.read.andThen fun payload rest =>
    match nested i payload with
    | .ok m => .ok (m, rest)
    | .error e => .error e

/-- The value at the front of the input. -/
def Value.read (nested : Nested c) : (e : Element c.size) → Reader (Value c e)
  | .scalar s => s.read.map .scalar
  | .message i => (readMessage nested i).map .message

/-! ## Blocks of values -/

/-- The values before, with those of a block behind them that holds them side by side. -/
def readPacked (nested : Nested c) {e : Element c.size} (values : Values c e) :
    Reader (Values c e) :=
  Wire.Delimited.read.andThen fun block rest =>
    match untilEnd .bufferOverflow
        (fun values => (Value.read nested e).map values.push) values block with
    | .ok values => .ok (values, rest)
    | .error e => .error e

/-! ## Map entries -/

/-- The key and the value of an entry, as far as it is read. -/
structure Entry (c : Catalog) (k v : Element c.size) where
  key : Value c k
  value : Value c v

/-- The entry with the record at the front of the input read into it. -/
def Entry.readRecord (nested : Nested c) {k v : Element c.size} (entry : Entry c k v) :
    Reader (Entry c k v) :=
  Wire.readKey.andThen fun key =>
    if key = (tag mapKeyNumber k.wireType).toUInt64 then
      (Value.read nested k).map fun key => { entry with key }
    else if key = (tag mapValueNumber v.wireType).toUInt64 then
      (Value.read nested v).map fun value => { entry with value }
    else fun _ => .error (.unexpectedMapEntryTag key)

/-- The entry whose payload is the block at the front of the input. -/
def readEntry (nested : Nested c) (k v : Element c.size) : Reader (Entry c k v) :=
  Wire.Delimited.read.andThen fun payload rest =>
    match untilEnd .bufferOverflow (Entry.readRecord nested) ⟨.default k, .default v⟩ payload with
    | .ok entry => .ok (entry, rest)
    | .error e => .error e

/-! ## Records -/

/-- How a slot takes in a record with the given key, if the key is one of its field's. -/
def Slot.arm? (nested : Nested c) (number : UInt32) (key : UInt64) :
    {shape : Shape (Element c.size)} → Slot c shape → Option (Reader (Slot c shape))
  | .singular (.scalar s), _ =>
    if key = (tag number s.wireType).toUInt64 then some (s.read.map .scalar) else none
  | .singular (.message i), _ =>
    if key = (tag number .lengthDelimited).toUInt64 then
      some ((readMessage nested i).map .present)
    else none
  | .repeated e, .repeated values =>
    if key = (tag number e.wireType).toUInt64 then
      some ((Value.read nested e).map fun v => .repeated (values.push v))
    else if e.wireType.packable ∧ key = (tag number .lengthDelimited).toUInt64 then
      some ((readPacked nested values).map .repeated)
    else none
  | .map k v, .map keys values =>
    if key = (tag number .lengthDelimited).toUInt64 then
      some ((readEntry nested k v).map fun entry =>
        .map (keys.push entry.key) (values.push entry.value))
    else none

/-- Takes in a record with the given key: the first field with that key does, and a record of none
is passed over. -/
def Slots.takeIn (nested : Nested c) (key : UInt64) :
    {fields : List (Field c.size)} → Slots c fields → Reader (Slots c fields)
  | _, .nil => (Wire.skip (Wire.wireBits key)).map fun _ => .nil
  | f :: _, .cons slot slots =>
    match slot.arm? nested f.number key with
    | some read => read.map fun slot => .cons slot slots
    | none => (slots.takeIn nested key).map fun slots => .cons slot slots

/-- The message with the record at the front of the input read into it. -/
def readRecord (nested : Nested c) {i : Fin c.size} (m : Message c i) : Reader (Message c i) :=
  Wire.readKey.andThen fun key => m.takeIn nested key

/-! ## Messages -/

/-- The message with all records of the input read into it. A payload is never as long as the input
it comes from; one that were would run past its end. -/
def decodeInto (i : Fin c.size) (m : Message c i) (input : Bytes) :
    Except DecodeError (Message c i) :=
  untilEnd .bufferOverflow
    (readRecord fun j payload =>
      if payload.length < input.length then decodeInto j (Message.default j) payload
      else .error .bufferOverflow)
    m input
termination_by input.length

/-- The message whose records the input is. -/
def decode (i : Fin c.size) (input : Bytes) : Except DecodeError (Message c i) :=
  decodeInto i (Message.default i) input

end Wiregen.Codec
