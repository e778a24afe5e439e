import Wiregen.Codec.Decode
import Wiregen.Proofs.Schema.Shape
import Wiregen.Proofs.Wire.Payload
import Wiregen.Proofs.Wire.Split

/-!
# Messages as records

What the bytes of a message mean, in two levels. The bytes are split into records, a key and a
payload framed by the low bits of the key, without a look at the message (`records`). Each record is
then taken in by the fields that have its key, and by no other (`Slots.absorb`): a value replaces
the one before, values of a list are appended, singly or as a packed block, an entry of a map
appends one key and one value. A message inside a record is what the block in the record means by
the same rule (`meaning`).
-/

namespace Wiregen.Codec

open Schema (Shape)
open Wire (Bytes DecodeError Payload Reader Split mapKeyNumber mapValueNumber split tag wireBits)

variable {c : Catalog}

/-- A key with the payload behind it. -/
structure Record where
  key : UInt64
  payload : Payload
  deriving DecidableEq, Repr

/-- The record at the front of the input: a varint, and a payload framed by its low bits. -/
def Record.read : Reader Record :=
  Wire.readKey.andThen fun key => (Payload.readFramed (wireBits key)).map (Record.mk key)

/-- A record takes at least the byte of its key. -/
theorem Record.read_shortens : Record.read.Shortens :=
  Wire.Varint.read_shortens.andThen fun key =>
    ((Payload.readFramed_shortens (wireBits key)).map _).keeps

/-- The block in a record is shorter than the input the record is read from. -/
theorem Record.length_content_lt {input rest : Bytes} {r : Record}
    (h : Record.read input = .ok (r, rest)) : r.payload.content.length < input.length := by
  obtain ⟨key, mid, hkey, hpayload⟩ := Reader.andThen_eq_ok h
  obtain ⟨p, hp, rfl⟩ := Reader.map_eq_ok hpayload
  exact Nat.lt_trans (Payload.length_content_lt_of_framed hp) (Wire.Varint.read_shortens hkey)

/-- The bytes of a message as records. -/
def records (input : Bytes) : Split Record := split Record.read Record.read_shortens input

/-! ## Values -/

/-- The value that a payload stands for. -/
def Value.ofPayload (nested : Nested c) :
    (e : Element c.size) → Payload → Except DecodeError (Value c e)
  | .scalar s, p => (s.ofPayload p).map .scalar
  | .message i, p => (nested i p.content).map .message

/-- The values before, with those of a packed block behind them. -/
def Values.pushBlock (nested : Nested c) {e : Element c.size} (values : Values c e)
    (block : Bytes) : Except DecodeError (Values c e) :=
  (split (Payload.read e.wireType) (Payload.read_shortens _) block).fold
    (fun values p => (Value.ofPayload nested e p).map values.push) values

/-! ## Map entries -/

/-- The key of an entry and its value have different tags, whatever their types. -/
theorem mapValue_key_ne (k v : Element c.size) :
    (tag mapValueNumber v.wireType).toUInt64 ≠ (tag mapKeyNumber k.wireType).toUInt64 := by
  intro h
  have := Wire.tag_injective (by decide) (by decide) (UInt32.toUInt64_inj.mp h)
  exact absurd this.1 (by decide)

/-- The record at the front of an entry. Keys other than those of the entry's key and value are
refused before their payload is looked at. -/
def Entry.recordReader (k v : Element c.size) : Reader Record :=
  Wire.readKey.andThen fun key =>
    if key = (tag mapKeyNumber k.wireType).toUInt64 ∨
        key = (tag mapValueNumber v.wireType).toUInt64 then
      (Payload.readFramed (wireBits key)).map (Record.mk key)
    else fun _ => .error (.unexpectedMapEntryTag key)

/-- A record of an entry takes at least the byte of its tag. -/
theorem Entry.recordReader_shortens (k v : Element c.size) :
    (Entry.recordReader k v).Shortens := by
  refine Wire.Varint.read_shortens.andThen fun key => ?_
  split
  next => exact ((Payload.readFramed_shortens (wireBits key)).map _).keeps
  next => intro input r rest h; cases h

/-- A record of an entry is read from its own bytes, whatever is behind them. -/
theorem Entry.recordReader_looksAtFront (k v : Element c.size) :
    (Entry.recordReader k v).LooksAtFront := by
  refine Wire.Varint.read_looksAtFront.andThen fun key => ?_
  split
  next => exact (Payload.readFramed_looksAtFront (wireBits key)).map _
  next => intro input r rest h; cases h

/-- The block in a record of an entry is shorter than the input the record is read from. -/
theorem Entry.length_content_lt {k v : Element c.size} {input rest : Bytes} {r : Record}
    (h : Entry.recordReader k v input = .ok (r, rest)) :
    r.payload.content.length < input.length := by
  obtain ⟨key, mid, hkey, hpayload⟩ := Reader.andThen_eq_ok h
  by_cases hmem : key = (tag mapKeyNumber k.wireType).toUInt64 ∨
      key = (tag mapValueNumber v.wireType).toUInt64
  · rw [if_pos hmem] at hpayload
    obtain ⟨p, hp, rfl⟩ := Reader.map_eq_ok hpayload
    exact Nat.lt_trans (Payload.length_content_lt_of_framed hp) (Wire.Varint.read_shortens hkey)
  · rw [if_neg hmem] at hpayload
    cases hpayload

/-- An entry with a record taken in: a key or a value replaces the one before. -/
def Entry.absorb (nested : Nested c) {k v : Element c.size} (entry : Entry c k v) (r : Record) :
    Except DecodeError (Entry c k v) :=
  if r.key = (tag mapKeyNumber k.wireType).toUInt64 then
    (Value.ofPayload nested k r.payload).map fun key => { entry with key }
  else (Value.ofPayload nested v r.payload).map fun value => { entry with value }

/-- The entry that a block stands for, from the defaults of its key and value on. -/
def Entry.ofBlock (nested : Nested c) (k v : Element c.size) (block : Bytes) :
    Except DecodeError (Entry c k v) :=
  (split (Entry.recordReader k v) (Entry.recordReader_shortens k v) block).fold
    (Entry.absorb nested) ⟨.default k, .default v⟩

/-! ## Fields -/

/-- The keys of the records that a field of a number and a shape takes in. -/
def keysOf {n : Nat} (number : UInt32) (shape : Shape (Element n)) : List UInt64 :=
  (shape.wires Element.wireType).map fun w => (tag number w).toUInt64

section
variable {n : Nat} {number : UInt32} {key : UInt64}

@[simp] theorem mem_keysOf_singular {e : Element n} :
    key ∈ keysOf number (.singular e) ↔ key = (tag number e.wireType).toUInt64 := by
  simp [keysOf, Shape.wires]

@[simp] theorem mem_keysOf_repeated {e : Element n} :
    key ∈ keysOf number (.repeated e) ↔
      key = (tag number e.wireType).toUInt64 ∨
        e.wireType.packable ∧ key = (tag number .lengthDelimited).toUInt64 := by
  by_cases h : e.wireType.packable <;> simp [keysOf, Shape.wires, h]

@[simp] theorem mem_keysOf_map {k v : Element n} :
    key ∈ keysOf number (.map k v) ↔ key = (tag number .lengthDelimited).toUInt64 := by
  simp [keysOf, Shape.wires]

end

/-- The keys of the records that a field takes in. -/
def Field.keys {n : Nat} (f : Field n) : List UInt64 := keysOf f.number f.shape

/-- Fields of which no two take in records with the same key. -/
def KeysDistinct {n : Nat} (fields : List (Field n)) : Prop := (fields.flatMap Field.keys).Nodup

instance {n : Nat} (fields : List (Field n)) : Decidable (KeysDistinct fields) :=
  inferInstanceAs (Decidable (List.Nodup _))

/-- The first field's keys are none of the others'. -/
theorem KeysDistinct.cons {n : Nat} {f : Field n} {fields : List (Field n)}
    (h : KeysDistinct (f :: fields)) :
    KeysDistinct fields ∧ ∀ key ∈ f.keys, ∀ g ∈ fields, key ∉ g.keys := by
  rw [KeysDistinct, List.flatMap_cons, List.nodup_append] at h
  obtain ⟨-, hfields, hapart⟩ := h
  refine ⟨hfields, fun key hkey g hg hmem => ?_⟩
  exact hapart key hkey key (List.mem_flatMap.mpr ⟨g, hg, hmem⟩) rfl

/-- A slot with a record taken in. A record with none of the field's keys leaves it as it is. -/
def Slot.absorb (nested : Nested c) (number : UInt32) (r : Record) :
    {shape : Shape (Element c.size)} → Slot c shape → Except DecodeError (Slot c shape)
  | .singular (.scalar s), slot =>
    if r.key = (tag number s.wireType).toUInt64 then (s.ofPayload r.payload).map .scalar
    else .ok slot
  | .singular (.message i), slot =>
    if r.key = (tag number .lengthDelimited).toUInt64 then
      (nested i r.payload.content).map .present
    else .ok slot
  | .repeated e, .repeated values =>
    if r.key = (tag number e.wireType).toUInt64 then
      (Value.ofPayload nested e r.payload).map fun v => .repeated (values.push v)
    else if e.wireType.packable ∧ r.key = (tag number .lengthDelimited).toUInt64 then
      (values.pushBlock nested r.payload.content).map .repeated
    else .ok (.repeated values)
  | .map k v, .map keys values =>
    if r.key = (tag number .lengthDelimited).toUInt64 then
      (Entry.ofBlock nested k v r.payload.content).map fun entry =>
        .map (keys.push entry.key) (values.push entry.value)
    else .ok (.map keys values)

/-- Slots with a record taken in, by each on its own. -/
def Slots.absorb (nested : Nested c) :
    {fields : List (Field c.size)} → Slots c fields → Record → Except DecodeError (Slots c fields)
  | _, .nil, _ => .ok .nil
  | f :: _, .cons slot slots, r => do
    let slot ← slot.absorb nested f.number r
    let slots ← slots.absorb nested r
    return .cons slot slots

/-! ## What records append -/

/-- The values of a list, in their order. -/
def Slot.elements {e : Element c.size} : Slot c (.repeated e) → List (Value c e)
  | .repeated values => values.toList

/-- The keys of a map, in the order of its entries. -/
def Slot.keys {k v : Element c.size} : Slot c (.map k v) → List (Value c k)
  | .map keys _ => keys.toList

/-- The values of a map, in the order of its entries. -/
def Slot.values {k v : Element c.size} : Slot c (.map k v) → List (Value c v)
  | .map _ values => values.toList

/-- Values with the one that a payload stands for behind them. -/
def Value.appendPayload (nested : Nested c) {e : Element c.size} (vs : List (Value c e))
    (p : Payload) : Except DecodeError (List (Value c e)) :=
  (Value.ofPayload nested e p).map fun v => vs ++ [v]

/-- The values of a packed block, in their order. -/
def Value.ofBlock (nested : Nested c) (e : Element c.size) (block : Bytes) :
    Except DecodeError (List (Value c e)) :=
  (split (Payload.read e.wireType) (Payload.read_shortens _) block).fold
    (Value.appendPayload nested) []

/-- What a record says for a list: one value, those of a packed block, or nothing where it has none
of the field's keys. -/
def Record.elements (nested : Nested c) (number : UInt32) (e : Element c.size) (r : Record) :
    Except DecodeError (List (Value c e)) :=
  if r.key = (tag number e.wireType).toUInt64 then
    (Value.ofPayload nested e r.payload).map fun v => [v]
  else if e.wireType.packable ∧ r.key = (tag number .lengthDelimited).toUInt64 then
    Value.ofBlock nested e r.payload.content
  else .ok []

/-- What a record says for a map: one entry, or nothing where it does not have the field's key. -/
def Record.entries (nested : Nested c) (number : UInt32) (k v : Element c.size) (r : Record) :
    Except DecodeError (List (Entry c k v)) :=
  if r.key = (tag number .lengthDelimited).toUInt64 then
    (Entry.ofBlock nested k v r.payload.content).map fun entry => [entry]
  else .ok []

section
variable (nested : Nested c) {e k v : Element c.size}

/-- The values of a packed block are appended to those before. -/
theorem Values.toList_pushBlock (values : Values c e) (block : Bytes) :
    (values.pushBlock nested block).map toList =
      (Value.ofBlock nested e block).map (values.toList ++ ·) := by
  have hpush : ∀ (values : Values c e) p,
      ((Value.ofPayload nested e p).map values.push).map toList =
        Value.appendPayload nested values.toList p := by
    intro values p
    rw [Value.appendPayload]
    cases Value.ofPayload nested e p with
    | error e => rfl
    | ok v => exact congrArg Except.ok (toList_push v values)
  have hbefore : ∀ (vs : List (Value c e)) p,
      (Value.appendPayload nested vs p).map (values.toList ++ ·) =
        Value.appendPayload nested (values.toList ++ vs) p := by
    intro vs p
    rw [Value.appendPayload, Value.appendPayload]
    cases Value.ofPayload nested e p with
    | error e => rfl
    | ok v => exact congrArg Except.ok (List.append_assoc _ _ _).symm
  rw [pushBlock, Split.fold_map hpush, Value.ofBlock, Split.fold_map hbefore, List.append_nil]

/-- A list takes in a record by appending what the record says for it. -/
theorem Slot.elements_absorb (number : UInt32) (slot : Slot c (.repeated e)) (r : Record) :
    (slot.absorb nested number r).map elements =
      (r.elements nested number e).map (slot.elements ++ ·) := by
  cases slot with
  | repeated values =>
    rw [absorb, Record.elements]
    split
    next =>
      cases Value.ofPayload nested e r.payload with
      | error e => rfl
      | ok v => exact congrArg Except.ok (Values.toList_push v values)
    next =>
      split
      next =>
        rw [elements, ← values.toList_pushBlock nested]
        cases values.pushBlock nested r.payload.content <;> rfl
      next => exact congrArg Except.ok (List.append_nil _).symm

/-- A map takes in a record by appending the key and the value of what the record says for it. -/
theorem Slot.entries_absorb (number : UInt32) (slot : Slot c (.map k v)) (r : Record) :
    (slot.absorb nested number r).map (fun slot => (slot.keys, slot.values)) =
      (r.entries nested number k v).map fun entries =>
        (slot.keys ++ entries.map (·.key), slot.values ++ entries.map (·.value)) := by
  cases slot with
  | map keys values =>
    rw [absorb, Record.entries]
    split
    next =>
      cases Entry.ofBlock nested k v r.payload.content with
      | error e => rfl
      | ok entry =>
        have hkeys := Values.toList_push entry.key keys
        have hvalues := Values.toList_push entry.value values
        exact congrArg Except.ok (Prod.ext hkeys hvalues)
    next =>
      exact congrArg Except.ok (Prod.ext (List.append_nil _).symm (List.append_nil _).symm)

end

/-! ## Messages -/

/-- A message with the records of the input taken in, where messages inside them mean what `nested`
says. -/
def absorbAll (nested : Nested c) {i : Fin c.size} (m : Message c i) (input : Bytes) :
    Except DecodeError (Message c i) :=
  (records input).fold (Slots.absorb nested) m

/-- What the bytes of a message mean. Blocks inside of them are shorter than they are
(`meaning_eq`). -/
def meaning (i : Fin c.size) (input : Bytes) : Except DecodeError (Message c i) :=
  absorbAll
    (fun j block => if block.length < input.length then meaning j block else .error .bufferOverflow)
    (Message.default i) input
termination_by input.length

end Wiregen.Codec
