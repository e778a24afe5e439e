import Wiregen.Proofs.Codec.Concat
import Wiregen.Proofs.Codec.Place

/-!
# Entries of maps

The block of an entry holds keys and values in any order and number (`Entry.Part`), and of each kind
the last counts (`Entry.ofBlock_parts`). A tag that is neither the key's nor the value's ends the
reading (`Entry.ofBlock_of_tag`), and so does a part that is not at its end when the block is
(`Entry.ofBlock_cut`). A map takes in an entry by appending one key and one value
(`Slots.absorb_entry`).
-/

namespace Wiregen.Codec

open Wire (Bytes DecodeError Payload Split mapKeyNumber mapValueNumber readKey split tag)

variable {c : Catalog} {nested : Nested c}

namespace Entry

variable {k v : Element c.size}

/-! ## Parts -/

/-- A part of an entry: a key or a value. -/
inductive Part (c : Catalog) (k v : Element c.size) where
  | key (key : Value c k)
  | value (value : Value c v)

namespace Part

/-- The key, if the part is one. -/
def key? : Part c k v → Option (Value c k)
  | .key a => some a
  | .value _ => none

/-- The value, if the part is one. -/
def value? : Part c k v → Option (Value c v)
  | .key _ => none
  | .value a => some a

/-- Bytes that hold the part and nothing else: its tag, in whatever form, and then the key or the
value up to the end. -/
def IsIn (nested : Nested c) (x : Bytes) : Part c k v → Prop
  | .key a => ∃ payload, readKey x = .ok ((tag mapKeyNumber k.wireType).toUInt64, payload) ∧
      Value.read nested k payload = .ok (a, [])
  | .value a => ∃ payload, readKey x = .ok ((tag mapValueNumber v.wireType).toUInt64, payload) ∧
      Value.read nested v payload = .ok (a, [])

/-- Bytes that hold parts one behind the other and nothing else. -/
inductive AreIn (nested : Nested c) : Bytes → List (Part c k v) → Prop
  | nil : AreIn nested [] []
  | cons {x y : Bytes} {part : Part c k v} {parts : List (Part c k v)} (first : part.IsIn nested x)
      (others : AreIn nested y parts) : AreIn nested (x ++ y) (part :: parts)

end Part

/-- The entry that parts in a row make: of the keys the last, of the values the last, and a default
where there is none. -/
def ofParts (parts : List (Part c k v)) : Entry c k v where
  key := (parts.filterMap Part.key?).getLast?.getD (.default k)
  value := (parts.filterMap Part.value?).getLast?.getD (.default v)

/-- The entry with a part in place of the one before. -/
def replace (entry : Entry c k v) : Part c k v → Entry c k v
  | .key key => { entry with key }
  | .value value => { entry with value }

/-- Parts that replace those before one after the other leave the last of each kind. -/
theorem foldl_replace (parts : List (Part c k v)) (entry : Entry c k v) :
    parts.foldl replace entry =
      ⟨(parts.filterMap Part.key?).getLast?.getD entry.key,
        (parts.filterMap Part.value?).getLast?.getD entry.value⟩ := by
  induction parts generalizing entry with
  | nil => rfl
  | cons part parts ih =>
    cases part <;>
      simp only [List.foldl_cons, ih, replace, List.filterMap_cons, Part.key?, Part.value?,
        List.getLast?_cons, Option.getD_some]

/-! ## Blocks -/

/-- An entry with the records of a block taken in. -/
def absorbBlock (nested : Nested c) (entry : Entry c k v) (block : Bytes) :
    Except DecodeError (Entry c k v) :=
  (split (recordReader k v) (recordReader_shortens k v) block).fold (absorb nested) entry

/-- A block stands for what its records make of an entry of two defaults. -/
theorem ofBlock_eq (block : Bytes) :
    ofBlock nested k v block = absorbBlock nested ⟨.default k, .default v⟩ block := rfl

/-- Bytes with the key's tag or the value's are one record where the payload behind it is all there
is, and the record stands for what is read from that. -/
theorem exists_record {x payload : Bytes} {number : UInt32} {e : Element c.size} {a : Value c e}
    (htag : (tag number e.wireType).toUInt64 = (tag mapKeyNumber k.wireType).toUInt64 ∨
      (tag number e.wireType).toUInt64 = (tag mapValueNumber v.wireType).toUInt64)
    (hkey : readKey x = .ok ((tag number e.wireType).toUInt64, payload))
    (hvalue : Value.read nested e payload = .ok (a, [])) :
    ∃ p, recordReader k v x = .ok (⟨(tag number e.wireType).toUInt64, p⟩, []) ∧
      Value.ofPayload nested e p = .ok a := by
  rw [Value.read_eq] at hvalue
  obtain ⟨p, hp, hof⟩ := Wire.Reader.tryMap_eq_ok hvalue
  refine ⟨p, ?_, hof⟩
  rw [recordReader, Wire.Reader.andThen_of_ok hkey, if_pos htag, Payload.readFramed_wireBits_tag,
    Wire.Reader.map_of_ok hp]

/-- The bytes of a part are one record, and to take it in is to put the part in its place. -/
theorem Part.IsIn.exists_record {part : Part c k v} {x : Bytes} (h : part.IsIn nested x) :
    ∃ r, recordReader k v x = .ok (r, []) ∧
      ∀ entry, absorb nested entry r = .ok (entry.replace part) := by
  cases part with
  | key a =>
    obtain ⟨payload, hkey, hvalue⟩ := h
    obtain ⟨p, hread, hof⟩ := Entry.exists_record (.inl rfl) hkey hvalue
    refine ⟨_, hread, fun entry => ?_⟩
    rw [absorb, if_pos rfl, hof]
    rfl
  | value a =>
    obtain ⟨payload, hkey, hvalue⟩ := h
    obtain ⟨p, hread, hof⟩ := Entry.exists_record (.inr rfl) hkey hvalue
    refine ⟨_, hread, fun entry => ?_⟩
    rw [absorb, if_neg (mapValue_key_ne k v), hof]
    rfl

/-- Parts at the front of a block replace those before, and the rest of it is taken in behind
them. -/
theorem absorbBlock_append {x : Bytes} {parts : List (Part c k v)} (h : Part.AreIn nested x parts)
    (entry : Entry c k v) (rest : Bytes) :
    absorbBlock nested entry (x ++ rest) =
      absorbBlock nested (parts.foldl replace entry) rest := by
  induction h generalizing entry with
  | nil => rfl
  | cons first _ ih =>
    obtain ⟨r, hread, habsorb⟩ := first.exists_record
    -- The first part is a record of its own, whatever stands behind it.
    have hmore := (recordReader_looksAtFront k v).append hread
    rw [List.append_assoc, absorbBlock, Wire.split_of_ok (hmore _), Split.fold_cons, habsorb]
    exact ih (entry.replace _)

section
variable {x : Bytes} {parts : List (Part c k v)} (h : Part.AreIn nested x parts)
include h

/-- A block of parts is read as the entry that these make. -/
theorem ofBlock_parts : ofBlock nested k v x = .ok (ofParts parts) := by
  have hparts := absorbBlock_append h ⟨.default k, .default v⟩ []
  rw [List.append_nil, foldl_replace] at hparts
  rw [ofBlock_eq, hparts, absorbBlock, Wire.split_nil]
  rfl

/-- A record that cannot be read behind parts makes the block one that cannot be read. -/
theorem ofBlock_of_error {rest : Bytes} {e : DecodeError} (hne : rest ≠ [])
    (hrest : recordReader k v rest = .error e) :
    ofBlock nested k v (x ++ rest) = .error e := by
  rw [ofBlock_eq, absorbBlock_append h, absorbBlock, Wire.split_of_error hne hrest]
  rfl

/-- A tag behind parts that is neither the key's nor the value's is refused as it stands. -/
theorem ofBlock_of_tag {rest payload : Bytes} {t : UInt64} (ht : readKey rest = .ok (t, payload))
    (hkey : t ≠ (tag mapKeyNumber k.wireType).toUInt64)
    (hvalue : t ≠ (tag mapValueNumber v.wireType).toUInt64) :
    ofBlock nested k v (x ++ rest) = .error (.unexpectedMapEntryTag t) := by
  refine ofBlock_of_error h ?_ ?_
  · rintro rfl
    exact Nat.not_lt_zero _ (Wire.Varint.read_shortens ht)
  · rw [recordReader, Wire.Reader.andThen_of_ok ht, if_neg (not_or.mpr ⟨hkey, hvalue⟩)]

/-- A part behind others that is not at its end when the block is runs past it. -/
theorem ofBlock_cut {part : Part c k v} {start missing : Bytes} (hstart : start ≠ [])
    (hmissing : missing ≠ []) (hpart : part.IsIn nested (start ++ missing)) :
    ofBlock nested k v (x ++ start) = .error .bufferOverflow := by
  obtain ⟨r, hread, -⟩ := hpart.exists_record
  exact ofBlock_of_error h hstart ((recordReader_looksAtFront k v).cut hread hmissing)

end

end Entry

/-! ## Maps -/

/-- A map with an entry's key and value behind those before. -/
def Slot.pushEntry {k v : Element c.size} :
    Slot c (.map k v) → Entry c k v → Slot c (.map k v)
  | .map keys values, entry => .map (keys.push entry.key) (values.push entry.value)

/-- An entry adds its key to a map, behind all others. -/
@[simp] theorem Slot.keys_pushEntry {k v : Element c.size} (slot : Slot c (.map k v))
    (entry : Entry c k v) : (slot.pushEntry entry).keys = slot.keys ++ [entry.key] := by
  cases slot with
  | map keys values => exact Values.toList_push entry.key keys

/-- An entry adds its value to a map, behind all others. -/
@[simp] theorem Slot.values_pushEntry {k v : Element c.size} (slot : Slot c (.map k v))
    (entry : Entry c k v) : (slot.pushEntry entry).values = slot.values ++ [entry.value] := by
  cases slot with
  | map keys values => exact Values.toList_push entry.value values

section
variable {fields : List (Field c.size)} {name : String} {number : UInt32} {k v : Element c.size}

/-- A message takes in a record of a map field by appending the entry that the block stands for. -/
theorem Slots.absorb_entry (nested : Nested c) (distinct : KeysDistinct fields)
    (place : Place fields ⟨name, number, .map k v⟩) (m : Slots c fields) (block : Bytes) :
    m.absorb nested ⟨(tag number .lengthDelimited).toUInt64, .block block⟩ =
      (Entry.ofBlock nested k v block).map fun entry =>
        m.set place ((m.get place).pushEntry entry) := by
  have hslot : (m.get place).absorb nested number
        ⟨(tag number .lengthDelimited).toUInt64, .block block⟩ =
      (Entry.ofBlock nested k v block).map (m.get place).pushEntry := by
    cases m.get place with
    | map keys values => rw [Slot.absorb, if_pos rfl, Payload.content_block]; rfl
  have hmem : (tag number .lengthDelimited).toUInt64 ∈ keysOf number (.map k v) :=
    mem_keysOf_map.mpr rfl
  rw [← m.set_get place, m.absorb_set_of_mem nested distinct place hmem, set_get, hslot]
  cases Entry.ofBlock nested k v block <;> rfl

end

/-! ## Entries in inputs -/

/-- A key and a block of a length behind it are one record. -/
theorem records_of_block {number : UInt32} {x tail block : Bytes}
    (hkey : readKey x = .ok ((tag number .lengthDelimited).toUInt64, tail))
    (hblock : Wire.Delimited.read tail = .ok (block, [])) :
    records x = ⟨[⟨(tag number .lengthDelimited).toUInt64, .block block⟩], none⟩ := by
  have hread : Record.read x =
      .ok (⟨(tag number .lengthDelimited).toUInt64, .block block⟩, []) := by
    rw [Record.read, Wire.Reader.andThen_of_ok hkey, Payload.readFramed_wireBits_tag, Payload.read]
    exact Wire.Reader.map_of_ok (Wire.Reader.map_of_ok hblock)
  rw [records, Wire.split_of_ok hread, Wire.split_nil]

section
variable (distinct : ∀ j, KeysDistinct (c.fields j)) {i : Fin c.size} {number : UInt32}
  {front x tail block : Bytes} {m : Message c i}
include distinct

/-- Behind an input that is read, a record of a map field is taken in for the entry that its block
stands for. -/
theorem decode_entry {name : String} {k v : Element c.size}
    (place : Place (c.fields i) ⟨name, number, .map k v⟩) (hfront : decode i front = .ok m)
    (hkey : readKey x = .ok ((tag number .lengthDelimited).toUInt64, tail))
    (hblock : Wire.Delimited.read tail = .ok (block, [])) :
    decode i (front ++ x) = (Entry.ofBlock decode k v block).map fun entry =>
      m.set place ((m.get place).pushEntry entry) := by
  rw [decode_behind distinct hfront, decodeInto_of_records distinct (records_of_block hkey hblock),
    Slots.absorbEach, List.foldlM_cons, Slots.absorb_entry decode (distinct i) place]
  cases Entry.ofBlock decode k v block <;> rfl

/-- What is behind a record of a block is read into the message that is read up to there. -/
theorem decode_behind_block (hfront : decode i front = .ok m)
    (hkey : readKey x = .ok ((tag number .lengthDelimited).toUInt64, tail))
    (hblock : Wire.Delimited.read tail = .ok (block, [])) (back : Bytes) :
    decode i (front ++ x ++ back) =
      (decode i (front ++ x)).bind fun m => decodeInto i m back := by
  have whole := ((decodeInto_eq_ok distinct).mp hfront).1
  have whole' : WholeRecords (front ++ x) := by
    rw [WholeRecords, whole.records_append, records_of_block hkey hblock]
  exact decodeInto_append distinct whole' (Message.default i) back

end

end Wiregen.Codec
