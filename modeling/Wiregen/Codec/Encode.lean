import Wiregen.Codec.Message

/-!
# Writing messages

Fields are written in the order of declaration: scalars always, messages where they are there, lists
as one record per value and maps as one entry per key and value. At a map whose lists differ in
length the writing halts, and what was written before stays.
-/

namespace Wiregen.Codec

open Wire (Bytes WireType encodeKey mapKeyNumber mapValueNumber tag)

/-- Bytes that were written, and whether the writing halted behind them. -/
structure Written where
  bytes : Bytes
  halted : Bool
  deriving DecidableEq, Repr

namespace Written

/-- Writing that came to its end. -/
def done (bytes : Bytes) : Written := ⟨bytes, false⟩

/-- Writing that halted behind some bytes. -/
def halt (bytes : Bytes) : Written := ⟨bytes, true⟩

/-- One writing after the other, as far as it comes. -/
def append (first second : Written) : Written :=
  if first.halted then first else ⟨first.bytes ++ second.bytes, second.halted⟩

/-- Writings in a row. -/
def concat : List Written → Written
  | [] => done []
  | first :: others => first.append (concat others)

/-- A block that is written into a buffer of its own first; `before` is written ahead of that. -/
def block (before after : Bytes) (content : Written) : Written :=
  if content.halted then halt before
  else done (before ++ after ++ Wire.Delimited.encode content.bytes)

end Written

/-- The key of a field as it is written. -/
def keyBytes (number : UInt32) (wire : WireType) : Bytes := encodeKey (tag number wire).toUInt64

/-- An entry of a map field: the key and the value in one block. -/
def entryWritten (number : UInt32) (key value : Written) : Written :=
  (key.append value).block [] (keyBytes number .lengthDelimited)

variable {c : Catalog}

mutual

/-- A value as a record with the given field number. -/
def Value.written (number : UInt32) : {e : Element c.size} → Value c e → Written
  | .scalar s, .scalar v => .done (keyBytes number s.wireType ++ s.encode v)
  | .message _, .message m => m.written.block (keyBytes number .lengthDelimited) []

/-- Values as records with the given field number. -/
def Values.written (number : UInt32) : {e : Element c.size} → Values c e → List Written
  | _, .nil => []
  | _, .cons v vs => v.written number :: vs.written number

/-- A field's slot as records. -/
def Slot.written (number : UInt32) :
    {shape : Schema.Shape (Element c.size)} → Slot c shape → Written
  | .singular (.scalar s), .scalar v => .done (keyBytes number s.wireType ++ s.encode v)
  | _, .absent => .done []
  | _, .present m => m.written.block (keyBytes number .lengthDelimited) []
  | _, .repeated vs => .concat (vs.written number)
  | _, .map keys values =>
    let keys := keys.written mapKeyNumber
    let values := values.written mapValueNumber
    if keys.length = values.length then .concat (keys.zipWith (entryWritten number) values)
    else .halt []

/-- The slots of fields in a row as records. -/
def Slots.written : {fields : List (Field c.size)} → Slots c fields → Written
  | _, .nil => .done []
  | f :: _, .cons slot slots => (slot.written f.number).append slots.written

end

/-- The bytes of a message, unless the writing halts. -/
def encode {i : Fin c.size} (m : Message c i) : Option Bytes :=
  if m.written.halted then none else some m.written.bytes

/-! ## Writing into buffers -/

/-- What writing behind what a buffer holds makes of it. -/
abbrev Writer := Bytes → Written

namespace Writer

/-- Pushes bytes. -/
def push (bytes : Bytes) : Writer := fun buffer => .done (buffer ++ bytes)

/-- One writer after the other, unless the first halts. -/
def andThen (first second : Writer) : Writer := fun buffer =>
  let written := first buffer
  if written.halted then written else second written.bytes

/-- Writers in a row. -/
def sequence : List Writer → Writer
  | [] => Written.done
  | first :: others => first.andThen (sequence others)

/-- Writes into a buffer of its own, and pushes what that holds as a block behind other bytes. -/
def block (before : Bytes) (content : Writer) : Writer := fun buffer =>
  (content []).block buffer before

/-- Writes a scalar as a record with the given field number. -/
def scalar (number : UInt32) (s : Wire.Scalar) (v : s.Carrier) : Writer :=
  (push (keyBytes number s.wireType)).andThen (push (s.encode v))

/-- Writes a message as a record with the given field number, the key before anything else. -/
def message (number : UInt32) (content : Writer) : Writer :=
  (push (keyBytes number .lengthDelimited)).andThen (block [] content)

/-- Writes an entry of a map field. The record's key is not pushed before all of the entry is
written. -/
def entry (number : UInt32) (key value : Writer) : Writer :=
  (key.andThen value).block (keyBytes number .lengthDelimited)

end Writer

mutual

/-- Writes a value as a record with the given field number. -/
def Value.writer (number : UInt32) : {e : Element c.size} → Value c e → Writer
  | .scalar s, .scalar v => .scalar number s v
  | .message _, .message m => .message number m.writer

/-- Writes values as records with the given field number, one by one. -/
def Values.writers (number : UInt32) : {e : Element c.size} → Values c e → List Writer
  | _, .nil => []
  | _, .cons v vs => v.writer number :: vs.writers number

/-- Writes a field's slot. -/
def Slot.writer (number : UInt32) : {shape : Schema.Shape (Element c.size)} → Slot c shape → Writer
  | .singular (.scalar s), .scalar v => .scalar number s v
  | _, .absent => Written.done
  | _, .present m => .message number m.writer
  | _, .repeated vs => .sequence (vs.writers number)
  | _, .map keys values =>
    let keys := keys.writers mapKeyNumber
    let values := values.writers mapValueNumber
    if keys.length = values.length then .sequence (keys.zipWith (Writer.entry number) values)
    else Written.halt

/-- Writes the slots of fields in a row. -/
def Slots.writer : {fields : List (Field c.size)} → Slots c fields → Writer
  | _, .nil => Written.done
  | f :: _, .cons slot slots => (slot.writer f.number).andThen slots.writer

end

/-- Writes a message behind what a buffer holds. -/
def encodeTo {i : Fin c.size} (m : Message c i) : Writer := m.writer

end Wiregen.Codec
