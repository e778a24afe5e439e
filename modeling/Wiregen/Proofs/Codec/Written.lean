import Wiregen.Codec.Encode
import Wiregen.Proofs.Codec.Record

/-!
# What is written are records

A message in which the lists of every map are of the same length (`Slots.Balanced`) is written
without a halt, and what is written are the records that its slots stand for, one after the other
(`Slots.written_eq`). Each of them is read back by its framing alone (`Slots.fits_of_mem_records`).
-/

namespace Wiregen.Codec

open Schema (Shape)
open Wire (Bytes Payload Reader WireType encodeKey mapKeyNumber mapValueNumber tag wireBits)

variable {c : Catalog}

/-! ## Balanced messages -/

mutual

/-- A value with no message in it that has a map with lists of different lengths. -/
def Value.Balanced : {e : Element c.size} → Value c e → Prop
  | .scalar _, .scalar _ => True
  | .message _, .message m => m.Balanced

/-- Values each of which is balanced. -/
def Values.Balanced : {e : Element c.size} → Values c e → Prop
  | _, .nil => True
  | _, .cons v vs => v.Balanced ∧ vs.Balanced

/-- A slot with balanced values and messages, and with lists of the same length if it is a map. -/
def Slot.Balanced : {shape : Shape (Element c.size)} → Slot c shape → Prop
  | .singular (.scalar _), .scalar _ => True
  | _, .absent => True
  | _, .present m => m.Balanced
  | _, .repeated vs => vs.Balanced
  | _, .map keys values => keys.length = values.length ∧ keys.Balanced ∧ values.Balanced

/-- Slots in which the lists of every map are of the same length, and those in the messages they
hold as well. -/
def Slots.Balanced : {fields : List (Field c.size)} → Slots c fields → Prop
  | _, .nil => True
  | _, .cons slot slots => slot.Balanced ∧ slots.Balanced

end

/-- Each of balanced values is balanced. -/
theorem Values.Balanced.of_mem {e : Element c.size} {v : Value c e} :
    ∀ {vs : Values c e}, vs.Balanced → v ∈ vs.toList → v.Balanced
  | .nil, _, h => nomatch h
  | .cons w ws, hbalanced, h => by
    obtain ⟨hw, hws⟩ := hbalanced
    rcases List.mem_cons.mp h with rfl | h
    · exact hw
    · exact hws.of_mem h

/-! ## Bytes of records -/

/-- The bytes of a record, whose key says how the payload is framed. -/
def Record.bytes (r : Record) : Bytes :=
  match WireType.ofNumber? (wireBits r.key).toNat with
  | some w => encodeKey r.key ++ r.payload.encode w
  | none => encodeKey r.key

/-- A record whose key frames the payload that it has. -/
def Record.Fits (r : Record) : Prop :=
  ∃ w, WireType.ofNumber? (wireBits r.key).toNat = some w ∧ r.payload.Fits w

/-- The low bits of a field's key are the number of its wire type. -/
theorem ofNumber?_wireBits_tag (number : UInt32) (w : WireType) :
    WireType.ofNumber? (wireBits (tag number w).toUInt64).toNat = some w := by
  have hnumber : w.number.toUInt64.toNat = w.number.toNat := by simp
  rw [Wire.wireBits_tag, hnumber, WireType.ofNumber?_number]

/-- A record of a field is written as its key and a payload framed by the key. -/
theorem Record.bytes_tag (number : UInt32) (w : WireType) (p : Payload) :
    Record.bytes ⟨(tag number w).toUInt64, p⟩ = keyBytes number w ++ p.encode w := by
  simp only [bytes, ofNumber?_wireBits_tag, keyBytes]

/-- A payload fits a key that is made for its framing. -/
theorem Record.fits_tag {number : UInt32} {w : WireType} {p : Payload} (h : p.Fits w) :
    Record.Fits ⟨(tag number w).toUInt64, p⟩ :=
  ⟨w, ofNumber?_wireBits_tag number w, h⟩

/-- A record that fits is read back in two steps, whatever is behind it. -/
theorem Record.Fits.exists_read {r : Record} (h : r.Fits) (rest : Bytes) :
    ∃ mid, Wire.readKey (r.bytes ++ rest) = .ok (r.key, mid) ∧
      (Payload.readFramed (wireBits r.key)).map (Record.mk r.key) mid = .ok (r, rest) := by
  obtain ⟨w, hw, hp⟩ := h
  have hkey := Wire.Varint.read_encode r.key.toNat_lt (r.payload.encode w ++ rest)
  rw [UInt64.ofNat_toNat] at hkey
  refine ⟨r.payload.encode w ++ rest, ?_, ?_⟩
  · simp only [bytes, hw, encodeKey, List.append_assoc]
    exact hkey
  · refine Reader.map_of_ok ?_
    rw [Payload.readFramed, hw]
    exact Payload.read_encode hp rest

/-- A record that fits its key is read back, whatever is behind it. -/
theorem Record.read_bytes {r : Record} (h : r.Fits) (rest : Bytes) :
    Record.read (r.bytes ++ rest) = .ok (r, rest) := by
  obtain ⟨mid, hkey, hpayload⟩ := h.exists_read rest
  rw [read, Reader.andThen_of_ok hkey, hpayload]

/-- A block behind the key of a field is a record of the field. -/
theorem records_block (number : UInt32) {block : Bytes} (h : block.length < UInt64.size)
    (rest : Bytes) :
    records (keyBytes number .lengthDelimited ++ Wire.Delimited.encode block ++ rest) =
      ⟨⟨(tag number .lengthDelimited).toUInt64, .block block⟩ :: (records rest).items,
        (records rest).broken⟩ := by
  have hfits : Record.Fits ⟨(tag number .lengthDelimited).toUInt64, .block block⟩ :=
    Record.fits_tag h
  have hread := Record.read_bytes hfits rest
  rw [Record.bytes_tag] at hread
  exact Wire.split_of_ok hread

/-- Records that fit are read back from their bytes. -/
theorem records_flatMap_bytes {rs : List Record} (h : ∀ r ∈ rs, r.Fits) :
    records (rs.flatMap Record.bytes) = ⟨rs, none⟩ :=
  Wire.split_flatMap Record.read_shortens fun r hr => Record.read_bytes (h r hr)

/-- A record of an entry is read back by the entry's reader if it has one of the two keys. -/
theorem Entry.recordReader_bytes {k v : Element c.size} {r : Record} (h : r.Fits)
    (hkey : r.key = (tag mapKeyNumber k.wireType).toUInt64 ∨
      r.key = (tag mapValueNumber v.wireType).toUInt64) (rest : Bytes) :
    Entry.recordReader k v (r.bytes ++ rest) = .ok (r, rest) := by
  obtain ⟨mid, hread, hpayload⟩ := h.exists_read rest
  rw [recordReader, Reader.andThen_of_ok hread, if_pos hkey, hpayload]

/-! ## Records of a message -/

/-- The payload of a value. -/
def Value.payload : {e : Element c.size} → Value c e → Payload
  | .scalar s, .scalar v => s.toPayload v
  | .message _, .message m => .block m.written.bytes

/-- A value as a record with the given field number. -/
def Value.record (number : UInt32) {e : Element c.size} (v : Value c e) : Record :=
  ⟨(tag number e.wireType).toUInt64, v.payload⟩

/-- A key and a value as the record of a map field with the given number. -/
def entryRecord (number : UInt32) {k v : Element c.size} (key : Value c k) (value : Value c v) :
    Record :=
  ⟨(tag number .lengthDelimited).toUInt64,
    .block ((key.record mapKeyNumber).bytes ++ (value.record mapValueNumber).bytes)⟩

/-- The records of a slot. -/
def Slot.records (number : UInt32) : {shape : Shape (Element c.size)} → Slot c shape → List Record
  | .singular (.scalar _), .scalar v => [(Value.scalar v : Value c _).record number]
  | _, .absent => []
  | _, .present m => [(Value.message m).record number]
  | _, .repeated vs => vs.toList.map (Value.record number)
  | _, .map keys values =>
    (keys.toList.zip values.toList).map fun entry => entryRecord number entry.1 entry.2

/-- The records of slots, in the order of their fields. -/
def Slots.records : {fields : List (Field c.size)} → Slots c fields → List Record
  | _, .nil => []
  | f :: _, .cons slot slots => slot.records f.number ++ slots.records

/-! ## Writing goes through -/

namespace Written

@[simp] theorem append_done (first second : Bytes) :
    (done first).append (done second) = done (first ++ second) := rfl

@[simp] theorem block_done (before after content : Bytes) :
    (done content).block before after =
      done (before ++ after ++ Wire.Delimited.encode content) := rfl

/-- Writings of which none halts are one that does not. -/
theorem concat_map_done {α : Type} (write : α → Bytes) (items : List α) :
    concat (items.map fun a => done (write a)) = done (items.flatMap write) := by
  induction items with
  | nil => rfl
  | cons a items ih => rw [List.map_cons, concat, ih, append_done, List.flatMap_cons]

end Written

/-- The record of a scalar is its key and its bytes. -/
theorem Value.bytes_record_scalar (number : UInt32) {s : Wire.Scalar} (v : s.Carrier) :
    ((Value.scalar v : Value c _).record number).bytes =
      keyBytes number s.wireType ++ s.encode v := by
  rw [record, Record.bytes_tag, payload, Wire.Scalar.encode_eq]
  rfl

/-- The record of a message is its key, its length and its bytes. -/
theorem Value.bytes_record_message (number : UInt32) {i : Fin c.size} (m : Message c i) :
    ((Value.message m : Value c _).record number).bytes =
      keyBytes number .lengthDelimited ++ Wire.Delimited.encode m.written.bytes := by
  rw [record, Record.bytes_tag]
  rfl

/-- An entry is written as one record if its key and its value are written. -/
theorem entryWritten_done (number : UInt32) {k v : Element c.size} (key : Value c k)
    (value : Value c v) :
    entryWritten number (.done (key.record mapKeyNumber).bytes)
        (.done (value.record mapValueNumber).bytes) =
      .done (entryRecord number key value).bytes := by
  rw [entryWritten, Written.append_done, Written.block_done, entryRecord, Record.bytes_tag]
  rfl

mutual

/-- A balanced value is written as its record. -/
theorem Value.written_eq (number : UInt32) : {e : Element c.size} → (v : Value c e) →
    v.Balanced → v.written number = .done (v.record number).bytes
  | .scalar s, .scalar v, _ => by rw [Value.written, Value.bytes_record_scalar]
  | .message i, .message m, h => by
    rw [Value.written, Value.bytes_record_message, Slots.written_eq m h, Written.block_done,
      List.append_nil]
    rfl

/-- Balanced values are each written as their record. -/
theorem Values.written_eq (number : UInt32) : {e : Element c.size} → (vs : Values c e) →
    vs.Balanced → vs.written number = vs.toList.map fun v => .done (v.record number).bytes
  | _, .nil, _ => rfl
  | _, .cons v vs, h => by
    rw [Values.written, Value.written_eq number v h.1, Values.written_eq number vs h.2]
    rfl

/-- A balanced slot is written as its records. -/
theorem Slot.written_eq (number : UInt32) : {shape : Shape (Element c.size)} →
    (slot : Slot c shape) → slot.Balanced →
    slot.written number = .done ((slot.records number).flatMap Record.bytes)
  | .singular (.scalar s), .scalar v, _ => by
    rw [Slot.written, Slot.records, List.flatMap_singleton, Value.bytes_record_scalar]
  | .singular (.message i), .absent, _ => rfl
  | .singular (.message i), .present m, h => by
    rw [Slot.written, Slot.records, List.flatMap_singleton, Value.bytes_record_message,
      Slots.written_eq m h, Written.block_done, List.append_nil]
    rfl
  | .repeated e, .repeated vs, h => by
    rw [Slot.written, Slot.records, Values.written_eq number vs h, Written.concat_map_done,
      List.flatMap_map]
  | .map k v, .map keys values, ⟨hlength, hkeys, hvalues⟩ => by
    rw [Slot.written, Slot.records, Values.written_eq mapKeyNumber keys hkeys,
      Values.written_eq mapValueNumber values hvalues]
    have hlists : keys.toList.length = values.toList.length := by simpa using hlength
    simp only [List.length_map, if_pos hlists, List.zipWith_map, entryWritten_done]
    rw [← Written.concat_map_done, List.map_map, List.zip_eq_zipWith, List.map_zipWith]
    rfl

/-- Balanced slots are written as their records. -/
theorem Slots.written_eq : {fields : List (Field c.size)} → (slots : Slots c fields) →
    slots.Balanced → slots.written = .done (slots.records.flatMap Record.bytes)
  | _, .nil, _ => rfl
  | f :: _, .cons slot slots, h => by
    rw [Slots.written, Slots.records, Slot.written_eq f.number slot h.1, Slots.written_eq slots h.2,
      Written.append_done, List.flatMap_append]

end

/-! ## Keys and sizes of the records -/

/-- The records of a slot have keys of its field. -/
theorem Slot.key_mem_of_mem_records {number : UInt32} {r : Record} {shape : Shape (Element c.size)}
    {slot : Slot c shape} (h : r ∈ slot.records number) : r.key ∈ keysOf number shape := by
  cases slot with
  | absent => cases h
  | scalar v | present m =>
    obtain rfl := List.mem_singleton.mp h
    exact mem_keysOf_singular.mpr rfl
  | repeated vs =>
    obtain ⟨v, -, rfl⟩ := List.mem_map.mp h
    exact mem_keysOf_repeated.mpr (.inl rfl)
  | map keys values =>
    obtain ⟨entry, -, rfl⟩ := List.mem_map.mp h
    exact mem_keysOf_map.mpr rfl

/-- A record of slots is one of the slot of a field. -/
theorem Slots.exists_slot {r : Record} {fields : List (Field c.size)} {slots : Slots c fields}
    (h : r ∈ slots.records) :
    ∃ f ∈ fields, ∃ slot : Slot c f.shape, r ∈ slot.records f.number := by
  induction fields with
  | nil => cases slots; cases h
  | cons f fields ih =>
    cases slots with
    | cons slot slots =>
      rcases List.mem_append.mp h with hslot | hslots
      · exact ⟨f, List.mem_cons_self, slot, hslot⟩
      · obtain ⟨g, hg, slot, hslot⟩ := ih hslots
        exact ⟨g, List.mem_cons_of_mem f hg, slot, hslot⟩

/-- The records of slots have keys of their fields. -/
theorem Slots.exists_key_mem {r : Record} {fields : List (Field c.size)} {slots : Slots c fields}
    (h : r ∈ slots.records) : ∃ f ∈ fields, r.key ∈ f.keys := by
  obtain ⟨f, hf, slot, hslot⟩ := Slots.exists_slot h
  exact ⟨f, hf, slot.key_mem_of_mem_records hslot⟩

/-- A key takes at least one byte. -/
theorem length_keyBytes_pos (number : UInt32) (w : WireType) : 0 < (keyBytes number w).length :=
  List.length_pos_iff.mpr (Wire.Varint.encode_ne_nil _)

/-- The block of a value is shorter than its record. -/
theorem Value.length_content_lt (number : UInt32) {e : Element c.size} (v : Value c e) :
    v.payload.content.length < (v.record number).bytes.length := by
  have hkey := length_keyBytes_pos number e.wireType
  have hcontent : v.payload.content.length ≤ (v.payload.encode e.wireType).length := by
    cases v with
    | scalar v => exact Wire.Scalar.length_content_le _ v
    | message m => exact Wire.Delimited.length_le_encode _
  rw [record, Record.bytes_tag, List.length_append]
  omega

/-- The record of a value fits its framing unless it is too long for any. -/
theorem Value.fits_record {number : UInt32} {e : Element c.size} {v : Value c e}
    (h : (v.record number).bytes.length ≤ UInt64.size) : (v.record number).Fits := by
  have hcontent := Nat.lt_of_lt_of_le (v.length_content_lt number) h
  cases v with
  | scalar v => exact Record.fits_tag (Wire.Scalar.toPayload_fits hcontent)
  | message m => exact Record.fits_tag hcontent

/-- The block of an entry is shorter than its record. -/
theorem length_entry_lt (number : UInt32) {k v : Element c.size} (key : Value c k)
    (value : Value c v) :
    (key.record mapKeyNumber).bytes.length + (value.record mapValueNumber).bytes.length <
      (entryRecord number key value).bytes.length := by
  have hkey := length_keyBytes_pos number .lengthDelimited
  have hblock := Wire.Delimited.length_le_encode
    ((key.record mapKeyNumber).bytes ++ (value.record mapValueNumber).bytes)
  rw [List.length_append] at hblock
  rw [entryRecord, Record.bytes_tag, List.length_append, Payload.encode, Payload.content_block]
  omega

/-- The records of a slot fit their framing unless they are too long for any. -/
theorem Slot.fits_of_mem_records {number : UInt32} {r : Record} {shape : Shape (Element c.size)}
    {slot : Slot c shape} (h : r ∈ slot.records number) (hsize : r.bytes.length ≤ UInt64.size) :
    r.Fits := by
  cases slot with
  | absent => cases h
  | scalar v | present m =>
    obtain rfl := List.mem_singleton.mp h
    exact Value.fits_record hsize
  | repeated vs =>
    obtain ⟨v, -, rfl⟩ := List.mem_map.mp h
    exact Value.fits_record hsize
  | map keys values =>
    obtain ⟨entry, -, rfl⟩ := List.mem_map.mp h
    have hlt := Nat.lt_of_lt_of_le (length_entry_lt number entry.1 entry.2) hsize
    rw [← List.length_append] at hlt
    exact Record.fits_tag hlt

/-- The records of slots fit their framing unless they are too long for any. -/
theorem Slots.fits_of_mem_records {r : Record} {fields : List (Field c.size)}
    {slots : Slots c fields} (h : r ∈ slots.records) (hsize : r.bytes.length ≤ UInt64.size) :
    r.Fits := by
  obtain ⟨f, -, slot, hslot⟩ := Slots.exists_slot h
  exact slot.fits_of_mem_records hslot hsize

/-- A record is no longer than the bytes of all. -/
theorem length_bytes_le_of_mem {r : Record} {rs : List Record} (h : r ∈ rs) :
    r.bytes.length ≤ (rs.flatMap Record.bytes).length := by
  rw [List.flatMap]
  exact (List.sublist_flatten_of_mem (List.mem_map_of_mem h)).length_le

end Wiregen.Codec
