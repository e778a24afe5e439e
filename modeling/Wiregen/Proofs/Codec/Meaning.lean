import Wiregen.Proofs.Codec.Record

/-!
# Reading is splitting and taking in

The reader of messages goes through the input once, with a rule for each key. Here each of its
readers is shown to frame a payload and to ask what it stands for, and with that the whole reading
to be the meaning of the input.
-/

namespace Wiregen.Codec

open Schema (Shape)
open Wire (Bytes DecodeError Payload Reader Split mapKeyNumber mapValueNumber split tag wireBits)

variable {c : Catalog}

/-! ## Values -/

/-- A nested message is read by framing its block and asking what that means. -/
theorem readMessage_eq (nested : Nested c) (i : Fin c.size) :
    readMessage nested i = Wire.Delimited.read.tryMap (nested i) := by
  unfold readMessage Reader.tryMap
  refine congrArg (Reader.andThen _) ?_
  funext payload rest
  cases nested i payload <;> rfl

/-- A value is read by framing its payload and asking what that stands for. -/
theorem Value.read_eq (nested : Nested c) (e : Element c.size) :
    Value.read nested e = (Payload.read e.wireType).tryMap (Value.ofPayload nested e) := by
  cases e with
  | scalar s =>
    rw [Value.read, Wire.Scalar.read_eq, Reader.tryMap_map]
    rfl
  | message i =>
    rw [Value.read, readMessage_eq, Reader.tryMap_map, Element.wireType, Payload.read,
      Reader.map_tryMap]
    rfl

/-- One value of a block is read by framing its payload and appending what that stands for. -/
theorem Value.readNext_eq (nested : Nested c) (e : Element c.size) :
    (fun values : Values c e => (Value.read nested e).map values.push) =
      (Payload.read e.wireType).into
        fun values p => (Value.ofPayload nested e p).map values.push := by
  funext values
  rw [Value.read_eq, Reader.tryMap_map, Reader.into]

/-- The values of a block are read by splitting it into payloads. -/
theorem readPacked_eq (nested : Nested c) {e : Element c.size} (values : Values c e) :
    readPacked nested values = Wire.Delimited.read.tryMap (values.pushBlock nested) := by
  unfold readPacked Reader.tryMap
  refine congrArg (Reader.andThen _) ?_
  funext block rest
  rw [Value.readNext_eq, Wire.untilEnd_into (Payload.read_shortens _), Values.pushBlock]
  cases Split.fold _ values (split _ _ block) <;> rfl

/-! ## Map entries -/

/-- One record of an entry is read by framing it and taking it in. -/
theorem Entry.readRecord_eq (nested : Nested c) {k v : Element c.size} :
    Entry.readRecord (k := k) (v := v) nested =
      (Entry.recordReader k v).into (Entry.absorb nested) := by
  funext entry
  rw [Reader.into, Entry.recordReader, Reader.andThen_tryMap, Entry.readRecord]
  refine congrArg (Reader.andThen _) ?_
  funext key
  by_cases hk : key = (tag mapKeyNumber k.wireType).toUInt64
  · rw [if_pos hk, if_pos (.inl hk), Reader.map_tryMap, Value.read_eq, Reader.tryMap_map, hk,
      Payload.readFramed_wireBits_tag]
    simp only [Entry.absorb, if_pos]
  · by_cases hv : key = (tag mapValueNumber v.wireType).toUInt64
    · rw [if_neg hk, if_pos hv, if_pos (.inr hv), Reader.map_tryMap, Value.read_eq,
        Reader.tryMap_map]
      simp only [Entry.absorb, if_neg hk]
      rw [hv, Payload.readFramed_wireBits_tag]
    · rw [if_neg hk, if_neg hv, if_neg (not_or.mpr ⟨hk, hv⟩)]
      rfl

/-- An entry is read by splitting its block into records. -/
theorem readEntry_eq (nested : Nested c) (k v : Element c.size) :
    readEntry nested k v = Wire.Delimited.read.tryMap (Entry.ofBlock nested k v) := by
  unfold readEntry Reader.tryMap
  refine congrArg (Reader.andThen _) ?_
  funext block rest
  rw [Entry.readRecord_eq, Wire.untilEnd_into (Entry.recordReader_shortens k v), Entry.ofBlock]
  cases Split.fold (Entry.absorb nested) _ (split _ _ block) <;> rfl

/-! ## Fields -/

/-- A slot has a reader for the keys of its field, which frames the payload and takes it in. -/
theorem Slot.arm?_of_mem (nested : Nested c) {number : UInt32} {key : UInt64}
    {shape : Shape (Element c.size)} (h : key ∈ keysOf number shape) (slot : Slot c shape) :
    slot.arm? nested number key = some
      ((Payload.readFramed (wireBits key)).tryMap fun p => slot.absorb nested number ⟨key, p⟩) := by
  cases slot with
  | scalar v =>
    obtain rfl := mem_keysOf_singular.mp h
    simp only [arm?, absorb, Element.wireType, Payload.readFramed_wireBits_tag,
      Wire.Scalar.read_eq, Reader.tryMap_map, if_true]
  | absent | present m =>
    obtain rfl := mem_keysOf_singular.mp h
    simp only [arm?, absorb, Element.wireType, Payload.readFramed_wireBits_tag, Payload.read,
      readMessage_eq, Reader.tryMap_map, Reader.map_tryMap, Payload.content_block, if_true]
  | repeated values =>
    rcases mem_keysOf_repeated.mp h with rfl | ⟨hpack, rfl⟩
    · simp only [arm?, absorb, Payload.readFramed_wireBits_tag, Value.read_eq, Reader.tryMap_map,
        if_true]
    · simp only [arm?, absorb, Payload.readFramed_wireBits_tag, Payload.read, readPacked_eq,
        Reader.tryMap_map, Reader.map_tryMap, Payload.content_block, Wire.packed_key_ne hpack,
        hpack, and_self, if_true, if_false]
  | map keys values =>
    obtain rfl := mem_keysOf_map.mp h
    simp only [arm?, absorb, Payload.readFramed_wireBits_tag, Payload.read, readEntry_eq,
      Reader.tryMap_map, Reader.map_tryMap, Payload.content_block, if_true]

/-- A slot has no reader for any other key. -/
theorem Slot.arm?_of_not_mem (nested : Nested c) {number : UInt32} {key : UInt64}
    {shape : Shape (Element c.size)} (h : key ∉ keysOf number shape) (slot : Slot c shape) :
    slot.arm? nested number key = none := by
  cases slot with
  | scalar v | absent | present m => exact if_neg (mt mem_keysOf_singular.mpr h)
  | repeated values =>
    obtain ⟨hsingle, hpacked⟩ := not_or.mp (mt mem_keysOf_repeated.mpr h)
    simp only [arm?, if_neg hsingle, if_neg hpacked]
  | map keys values => exact if_neg (mt mem_keysOf_map.mpr h)

/-- A slot stays as it is with a record of any other key. -/
theorem Slot.absorb_of_not_mem (nested : Nested c) {number : UInt32} {r : Record}
    {shape : Shape (Element c.size)} (h : r.key ∉ keysOf number shape) (slot : Slot c shape) :
    slot.absorb nested number r = .ok slot := by
  cases slot with
  | scalar v | absent | present m => exact if_neg (mt mem_keysOf_singular.mpr h)
  | repeated values =>
    obtain ⟨hsingle, hpacked⟩ := not_or.mp (mt mem_keysOf_repeated.mpr h)
    simp only [absorb, if_neg hsingle, if_neg hpacked]
  | map keys values => exact if_neg (mt mem_keysOf_map.mpr h)

/-! ## Messages -/

/-- Slots of fields that do not take in a record stay as they are. -/
theorem Slots.absorb_of_not_mem (nested : Nested c) {r : Record} {fields : List (Field c.size)}
    (h : ∀ f ∈ fields, r.key ∉ f.keys) (slots : Slots c fields) :
    slots.absorb nested r = .ok slots := by
  induction fields with
  | nil => cases slots; rfl
  | cons f fields ih =>
    cases slots with
    | cons slot slots =>
      have hslot := Slot.absorb_of_not_mem nested (h f List.mem_cons_self) slot
      have hslots := ih (fun g hg => h g (List.mem_cons_of_mem f hg)) slots
      rw [absorb, hslot, hslots]
      rfl

/-- The first field with the key of a record takes it in. Where keys are distinct that is the only
one, and so the payload is framed and taken in by every field on its own. -/
theorem Slots.takeIn_eq (nested : Nested c) (key : UInt64) {fields : List (Field c.size)}
    (distinct : KeysDistinct fields) (slots : Slots c fields) :
    slots.takeIn nested key =
      (Payload.readFramed (wireBits key)).tryMap fun p => slots.absorb nested ⟨key, p⟩ := by
  induction fields with
  | nil =>
    cases slots
    rw [takeIn, Wire.Payload.skip_eq_readFramed, Reader.map_map]
    exact (Reader.tryMap_ok _ _).symm
  | cons f fields ih =>
    cases slots with
    | cons slot slots =>
      obtain ⟨hfields, hapart⟩ := distinct.cons
      by_cases hkey : key ∈ f.keys
      · have hothers : ∀ p, slots.absorb nested ⟨key, p⟩ = .ok slots := fun p =>
          slots.absorb_of_not_mem nested (hapart key hkey)
        rw [takeIn, Slot.arm?_of_mem nested hkey slot]
        simp only [Reader.tryMap_map, absorb, hothers]
        rfl
      · have hslot : ∀ p, slot.absorb nested f.number ⟨key, p⟩ = .ok slot := fun p =>
          slot.absorb_of_not_mem nested hkey
        rw [takeIn, Slot.arm?_of_not_mem nested hkey slot]
        simp only [ih hfields slots, Reader.tryMap_map, absorb, hslot]
        rfl

/-- A record of a message is read by framing it and taking it in. -/
theorem readRecord_eq (nested : Nested c) {i : Fin c.size} (distinct : KeysDistinct (c.fields i)) :
    readRecord (i := i) nested = Record.read.into (Slots.absorb nested) := by
  funext m
  rw [readRecord, Reader.into, Record.read, Reader.andThen_tryMap]
  refine congrArg (Reader.andThen _) ?_
  funext key
  rw [m.takeIn_eq nested key distinct, Reader.map_tryMap]

/-- A message is read by splitting the input into records and taking these in. -/
theorem untilEnd_readRecord (nested : Nested c) {i : Fin c.size}
    (distinct : KeysDistinct (c.fields i)) (m : Message c i) (input : Bytes) :
    Wire.untilEnd .bufferOverflow (readRecord nested) m input = absorbAll nested m input := by
  rw [readRecord_eq nested distinct, Wire.untilEnd_into Record.read_shortens]
  rfl

/-! ## Messages inside of messages

What a record means depends on what the blocks inside of it mean, and these are shorter than the
input the record is read from.
-/

/-- Two readings of nested messages that agree on all blocks shorter than a length. -/
def Nested.AgreeBelow (n : Nat) (nested nested' : Nested c) : Prop :=
  ∀ i ⦃block : Bytes⦄, block.length < n → nested i block = nested' i block

section
variable {nested nested' : Nested c} {n : Nat}

/-- Readings that agree on blocks up to a length do so on those up to a smaller one. -/
theorem Nested.AgreeBelow.mono {n' : Nat} (h : Nested.AgreeBelow n nested nested') (hle : n' ≤ n) :
    Nested.AgreeBelow n' nested nested' :=
  fun i _ hlt => h i (Nat.lt_of_lt_of_le hlt hle)

/-- A payload shorter than the length stands for the same value under both readings. -/
theorem Value.ofPayload_congr (h : Nested.AgreeBelow n nested nested') {p : Payload}
    (hp : p.content.length < n) (e : Element c.size) :
    Value.ofPayload nested e p = Value.ofPayload nested' e p := by
  cases e with
  | scalar s => rfl
  | message i => rw [ofPayload, ofPayload, h i hp]

/-- The values of a block of length `n` have messages shorter than that. -/
theorem Values.pushBlock_congr {block : Bytes} (h : Nested.AgreeBelow block.length nested nested')
    {e : Element c.size} (values : Values c e) :
    values.pushBlock nested block = values.pushBlock nested' block := by
  unfold pushBlock
  refine Split.fold_congr fun p hp values => ?_
  obtain ⟨front, rest, hread, hle⟩ := Wire.read_of_mem_split hp
  have hlt := Nat.lt_of_lt_of_le (Payload.length_content_lt hread) hle
  rw [Value.ofPayload_congr h hlt]

/-- A block stands for the same entry under readings that agree on all shorter blocks. -/
theorem Entry.ofBlock_congr {block : Bytes} (h : Nested.AgreeBelow block.length nested nested')
    (k v : Element c.size) : Entry.ofBlock nested k v block = Entry.ofBlock nested' k v block := by
  unfold ofBlock
  refine Split.fold_congr fun r hr entry => ?_
  obtain ⟨front, rest, hread, hle⟩ := Wire.read_of_mem_split hr
  have hlt := Nat.lt_of_lt_of_le (Entry.length_content_lt hread) hle
  rw [absorb, absorb, Value.ofPayload_congr h hlt, Value.ofPayload_congr h hlt]

/-- A slot takes in a record with a payload shorter than the length alike under both readings. -/
theorem Slot.absorb_congr {r : Record} (h : Nested.AgreeBelow n nested nested')
    (hr : r.payload.content.length < n) (number : UInt32) {shape : Shape (Element c.size)}
    (slot : Slot c shape) : slot.absorb nested number r = slot.absorb nested' number r := by
  have hblock := h.mono (Nat.le_of_lt hr)
  cases slot with
  | scalar v => rfl
  | absent | present m => rw [absorb, absorb, h _ hr]
  | repeated values =>
    rw [absorb, absorb, Value.ofPayload_congr h hr, values.pushBlock_congr hblock]
  | map keys values => rw [absorb, absorb, Entry.ofBlock_congr hblock]

/-- Slots take in a record with a payload shorter than the length alike under both readings. -/
theorem Slots.absorb_congr {r : Record} (h : Nested.AgreeBelow n nested nested')
    (hr : r.payload.content.length < n) {fields : List (Field c.size)} (slots : Slots c fields) :
    slots.absorb nested r = slots.absorb nested' r := by
  induction fields with
  | nil => cases slots; rfl
  | cons f fields ih =>
    cases slots with
    | cons slot slots => rw [absorb, absorb, Slot.absorb_congr h hr, ih]

/-- What is taken in of an input depends on the meaning of shorter blocks. -/
theorem absorbAll_congr {input : Bytes} (h : Nested.AgreeBelow input.length nested nested')
    {i : Fin c.size} (m : Message c i) :
    absorbAll nested m input = absorbAll nested' m input := by
  refine Split.fold_congr fun r hr m => ?_
  obtain ⟨front, rest, hread, hle⟩ := Wire.read_of_mem_split hr
  exact m.absorb_congr h (Nat.lt_of_lt_of_le (Record.length_content_lt hread) hle)

end

/-! ## The meaning of an input -/

/-- The meaning of an input is that of its records, whose blocks mean what they mean on their
own. -/
theorem meaning_eq (i : Fin c.size) (input : Bytes) :
    meaning i input = absorbAll meaning (Message.default i) input := by
  rw [meaning]
  exact absorbAll_congr (fun j block hlt => if_pos hlt) _

/-- Reading records into a message is taking them in one after the other, where blocks inside of
them are read on their own and keys tell the fields of each message apart. -/
theorem decodeInto_eq (distinct : ∀ j, KeysDistinct (c.fields j)) {i : Fin c.size}
    (m : Message c i) (input : Bytes) : decodeInto i m input = absorbAll decode m input := by
  rw [decodeInto, untilEnd_readRecord _ (distinct i)]
  exact absorbAll_congr (fun j block hlt => if_pos hlt) m

/-- Reading a message is taking in its records, whose blocks are read on their own. -/
theorem decode_eq_absorbAll (distinct : ∀ j, KeysDistinct (c.fields j)) (i : Fin c.size)
    (input : Bytes) : decode i input = absorbAll decode (Message.default i) input :=
  decodeInto_eq distinct (Message.default i) input

/-- Reading a message gives the meaning of its bytes, where keys tell the fields of each message
apart. -/
theorem decode_eq (distinct : ∀ j, KeysDistinct (c.fields j)) (i : Fin c.size) (input : Bytes) :
    decode i input = meaning i input := by
  induction hn : input.length using Nat.strongRecOn generalizing i input with
  | ind n ih =>
    subst hn
    rw [meaning_eq, decode_eq_absorbAll distinct]
    exact absorbAll_congr (fun j block hlt => ih _ hlt j block rfl) _

end Wiregen.Codec
