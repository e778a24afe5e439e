import Wiregen.Proofs.Codec.Concat
import Wiregen.Proofs.Codec.Place
import Wiregen.Proofs.Codec.RoundTrip

/-!
# Lists of numbers in blocks and one by one

A list of numbers may come in pieces, each of them a packed block or a record for every number, with
records of other fields between them (`Piece`). However it is cut, the field holds all of its
numbers in their order, and the other fields hold what they hold without them (`decode_pieces`). A
block is read on its own: a number that is not at its end when the block is (`CutShort`) makes the
input an overflow, whatever stands behind the block (`failure?_decode_cutShort`).
-/

namespace Wiregen.Codec

open Wire (Bytes DecodeError Payload Scalar Split WireType failure? split tag)

variable {c : Catalog} {i : Fin c.size} {nested : Nested c} {s : Scalar} {number : UInt32}

/-! ## Blocks of numbers -/

/-- The bytes of numbers side by side are split into the payloads that stand for them. -/
theorem split_flatMap_encode (packable : s.wireType.packable) (vs : List s.Carrier) :
    split (Payload.read s.wireType) (Payload.read_shortens _) (vs.flatMap s.encode) =
      ⟨vs.map s.toPayload, none⟩ := by
  have hbytes : vs.flatMap s.encode =
      (vs.map s.toPayload).flatMap (Payload.encode s.wireType) := by
    have hencode : s.encode = fun v => (s.toPayload v).encode s.wireType := funext s.encode_eq
    rw [List.flatMap_map, hencode]
  rw [hbytes]
  refine Wire.split_flatMap (Payload.read_shortens _) fun p hp rest => ?_
  obtain ⟨v, -, rfl⟩ := List.mem_map.mp hp
  exact Payload.read_encode (Scalar.toPayload_fits_of_packable packable v) rest

/-- The numbers of a block are appended to those before. -/
theorem Values.pushBlock_encode (packable : s.wireType.packable) (vs : List s.Carrier)
    (values : Values c (.scalar s)) :
    values.pushBlock nested (vs.flatMap s.encode) =
      .ok (.ofList (values.toList ++ vs.map .scalar)) := by
  rw [pushBlock]
  simp only [Element.wireType]
  rw [split_flatMap_encode packable, Split.fold_whole]
  induction vs generalizing values with
  | nil =>
    rw [List.map_nil, List.map_nil, List.append_nil, ofList_toList]
    rfl
  | cons v vs ih =>
    have hv : Value.ofPayload nested (.scalar s) (s.toPayload v) = .ok (.scalar v) := by
      rw [Value.ofPayload, Scalar.ofPayload_toPayload]
      rfl
    have hvs := ih (values.push (.scalar v))
    rw [toList_push, List.append_assoc] at hvs
    rw [List.map_cons, List.foldlM_cons, hv]
    exact hvs

/-- A list takes in a block of numbers as one record. -/
theorem Slot.absorb_block (nested : Nested c) (number : UInt32) (packable : s.wireType.packable)
    (block : Bytes) (values : Values c (.scalar s)) :
    (Slot.repeated values).absorb nested number
        ⟨(tag number .lengthDelimited).toUInt64, .block block⟩ =
      (values.pushBlock nested block).map .repeated := by
  have hne : (tag number .lengthDelimited).toUInt64 ≠ (tag number s.wireType).toUInt64 :=
    Wire.packed_key_ne packable
  simp only [absorb, Element.wireType, hne, packable, and_self, if_true, if_false,
    Payload.content_block]

/-- A block of whole numbers and the start of one more, of which the end is missing. -/
def CutShort (s : Scalar) (block : Bytes) : Prop :=
  ∃ (numbers : List Bytes) (start missing : Bytes),
    block = numbers.flatten ++ start ∧ (∀ x ∈ numbers, ∃ v, s.read x = .ok (v, [])) ∧
    start ≠ [] ∧ missing ≠ [] ∧ ∃ v, s.read (start ++ missing) = .ok (v, [])

/-- The bytes of a number are those of a payload. -/
theorem exists_payload {x : Bytes} (h : ∃ v, s.read x = .ok (v, [])) :
    ∃ p, Payload.read s.wireType x = .ok (p, []) := by
  obtain ⟨v, hv⟩ := h
  rw [Scalar.read_eq] at hv
  obtain ⟨p, hp, -⟩ := Wire.Reader.tryMap_eq_ok hv
  exact ⟨p, hp⟩

/-- Behind the whole payloads of a block that is cut short is one that cannot be read. -/
theorem CutShort.broken {block : Bytes} (h : CutShort s block) :
    (split (Payload.read s.wireType) (Payload.read_shortens _) block).broken =
      some .bufferOverflow := by
  obtain ⟨numbers, start, missing, rfl, hnumbers, hstart, hmissing, hlast⟩ := h
  have hfront := Payload.read_looksAtFront s.wireType
  obtain ⟨p, hp⟩ := exists_payload hlast
  have hcut := hfront.cut hp hmissing
  rw [Wire.broken_flatten_append _ hfront fun x hx => exists_payload (hnumbers x hx),
    Wire.split_of_error hstart hcut]

/-- A block that is cut short is an overflow: none of its whole numbers is refused before. -/
theorem CutShort.failure?_pushBlock (packable : s.wireType.packable) {block : Bytes}
    (h : CutShort s block) (values : Values c (.scalar s)) :
    failure? (values.pushBlock nested block) = some .bufferOverflow := by
  have hvalid : ∀ p, failure? (Value.ofPayload nested (.scalar s) p) = none := by
    intro p
    obtain ⟨v, hv⟩ := Scalar.exists_ofPayload packable p
    rw [Value.ofPayload, hv]
    rfl
  rw [Values.failure?_pushBlock]
  simp only [hvalid, Element.wireType, h.broken]
  rw [List.findSome?_eq_none_iff.mpr fun _ _ => rfl]
  rfl

/-! ## Pieces -/

/-- A piece of an input in which a list of numbers comes in parts. -/
inductive Piece (s : Scalar) where
  /-- Numbers side by side in one block. -/
  | packed (vs : List s.Carrier)
  /-- Numbers in a record each. -/
  | single (vs : List s.Carrier)
  /-- Records of other fields. -/
  | others (input : Bytes)

namespace Piece

/-- The numbers of a piece. -/
def values : Piece s → List s.Carrier
  | .packed vs | .single vs => vs
  | .others _ => []

/-- What is in a piece besides numbers. -/
def rest : Piece s → Bytes
  | .packed _ | .single _ => []
  | .others input => input

/-- The bytes of a piece, where the list is the field with the given number. -/
def bytes (number : UInt32) : Piece s → Bytes
  | .packed vs => keyBytes number .lengthDelimited ++ Wire.Delimited.encode (vs.flatMap s.encode)
  | .single vs => vs.flatMap fun v => keyBytes number s.wireType ++ s.encode v
  | .others input => input

/-- A block is no longer than a length can say, and other records are whole and have neither of the
two keys of the list. -/
def Fits (number : UInt32) : Piece s → Prop
  | .packed vs => (vs.flatMap s.encode).length < UInt64.size
  | .single _ => True
  | .others input => WholeRecords input ∧ ∀ r ∈ (Codec.records input).items,
    r.key ≠ (tag number s.wireType).toUInt64 ∧ r.key ≠ (tag number .lengthDelimited).toUInt64

instance (number : UInt32) : (piece : Piece s) → Decidable (piece.Fits number)
  | .packed _ => inferInstanceAs (Decidable (_ < _))
  | .single _ => inferInstanceAs (Decidable True)
  | .others _ => inferInstanceAs (Decidable (_ ∧ _))

/-- The records of a piece. -/
def records (number : UInt32) : Piece s → List Record
  | .packed vs => [⟨(tag number .lengthDelimited).toUInt64, .block (vs.flatMap s.encode)⟩]
  | .single vs => vs.map fun v => ⟨(tag number s.wireType).toUInt64, s.toPayload v⟩
  | .others input => (Codec.records input).items

/-- A piece is split into its records. -/
theorem records_bytes (packable : s.wireType.packable) {piece : Piece s}
    (fits : piece.Fits number) :
    Codec.records (piece.bytes number) = ⟨piece.records number, none⟩ := by
  cases piece with
  | packed vs =>
    have hrecords := records_block number fits []
    rw [List.append_nil] at hrecords
    rw [bytes, hrecords, Codec.records, Wire.split_nil]
    rfl
  | single vs =>
    have hfits : ∀ r ∈ (single vs).records number, r.Fits := by
      intro r hr
      obtain ⟨v, -, rfl⟩ := List.mem_map.mp hr
      exact Record.fits_tag (Scalar.toPayload_fits_of_packable packable v)
    have hrecords := records_flatMap_bytes hfits
    rw [records, List.flatMap_map] at hrecords
    simp only [Record.bytes_tag, ← Scalar.encode_eq] at hrecords
    exact hrecords
  | others input => exact fits.1.records_eq

/-- What is in a piece besides numbers is whole records. -/
theorem wholeRecords_rest {piece : Piece s} (fits : piece.Fits number) :
    WholeRecords piece.rest := by
  cases piece with
  | packed vs | single vs => rw [rest, WholeRecords, Codec.records, Wire.split_nil]
  | others input => exact fits.1

/-! ## Pieces that are taken in -/

section
variable (nested) {name : String} {fields : List (Field c.size)}
  (place : Place fields ⟨name, number, .repeated (.scalar s)⟩)

/-- The numbers of a piece are appended to those before, and its other records go to the other
fields. -/
theorem absorbEach_records (distinct : KeysDistinct fields) (packable : s.wireType.packable)
    {piece : Piece s} (fits : piece.Fits number) (m : Slots c fields)
    (values : Values c (.scalar s)) :
    (m.set place (.repeated values)).absorbEach nested (piece.records number) =
      (m.absorbEach nested (Codec.records piece.rest).items).map fun m =>
        m.set place (.repeated (.ofList (values.toList ++ piece.values.map .scalar))) := by
  cases piece with
  | packed vs =>
    have hkeys : ∀ r ∈ (packed vs).records number,
        r.key ∈ keysOf number (.repeated (.scalar s : Element c.size)) := by
      intro r hr
      obtain rfl := List.mem_singleton.mp hr
      exact mem_keysOf_repeated.mpr (.inr ⟨packable, rfl⟩)
    have hslot := Slot.absorb_block nested number packable (vs.flatMap s.encode) values
    rw [Values.pushBlock_encode packable] at hslot
    rw [m.absorbEach_set_of_mem distinct place hkeys, records, Slot.absorbEach_cons hslot, rest,
      Codec.records, Wire.split_nil]
    rfl
  | single vs =>
    have hkeys : ∀ r ∈ (single vs).records number,
        r.key ∈ keysOf number (.repeated (.scalar s : Element c.size)) := by
      intro r hr
      obtain ⟨v, -, rfl⟩ := List.mem_map.mp hr
      exact mem_keysOf_repeated.mpr (.inl rfl)
    have hvalue : ∀ w ∈ vs.map (Value.scalar (c := c)),
        Value.ofPayload nested (.scalar s) w.payload = .ok w := by
      intro w hw
      obtain ⟨v, -, rfl⟩ := List.mem_map.mp hw
      rw [Value.payload, Value.ofPayload, Scalar.ofPayload_toPayload]
      rfl
    have hslot : (Slot.repeated values).absorbEach nested number
        ((vs.map Value.scalar).map (Value.record number)) = _ :=
      Slot.absorb_values (vs.map Value.scalar) hvalue values
    rw [List.map_map] at hslot
    rw [m.absorbEach_set_of_mem distinct place hkeys, rest, Codec.records, Wire.split_nil]
    exact congrArg (Except.map (m.set place)) hslot
  | others input =>
    have hkeys : ∀ r ∈ (Codec.records input).items,
        r.key ∉ keysOf number (.repeated (.scalar s : Element c.size)) := by
      intro r hr hmem
      obtain ⟨hsingle, hpacked⟩ := fits.2 r hr
      rcases mem_keysOf_repeated.mp hmem with h | h
      · exact hsingle h
      · exact hpacked h.2
    rw [records, m.absorbEach_set_of_not_mem place hkeys, Piece.values, List.map_nil,
      List.append_nil, Values.ofList_toList, rest]

/-- The numbers of all pieces are appended in their order. -/
theorem absorbEach_flatMap_records (distinct : KeysDistinct fields)
    (packable : s.wireType.packable) {pieces : List (Piece s)}
    (fits : ∀ piece ∈ pieces, piece.Fits number) (m : Slots c fields)
    (values : Values c (.scalar s)) :
    (m.set place (.repeated values)).absorbEach nested (pieces.flatMap (records number)) =
      (m.absorbEach nested (pieces.flatMap fun piece => (Codec.records piece.rest).items)).map
        fun m => m.set place
          (.repeated (.ofList (values.toList ++ (pieces.flatMap Piece.values).map .scalar))) := by
  -- On the pieces, for every list that the field holds before: a piece makes it longer.
  induction pieces generalizing m values with
  | nil =>
    rw [List.flatMap_nil, List.flatMap_nil, List.map_nil, List.append_nil, Values.ofList_toList]
    rfl
  | cons piece pieces ih =>
    have hpiece := absorbEach_records nested place distinct packable
      (fits piece List.mem_cons_self) m values
    have hpieces := ih fun q hq => fits q (List.mem_cons_of_mem piece hq)
    simp only [List.flatMap_cons, Slots.absorbEach_append, hpiece]
    cases m.absorbEach nested (Codec.records piece.rest).items with
    | error e => rfl
    | ok m' =>
      have hrest := hpieces m' (.ofList (values.toList ++ piece.values.map .scalar))
      rw [Values.toList_ofList, List.append_assoc, ← List.map_append] at hrest
      exact hrest

end

end Piece

/-! ## Lists in pieces -/

section
variable (distinct : ∀ j, KeysDistinct (c.fields j)) {name : String}
  (place : Place (c.fields i) ⟨name, number, .repeated (.scalar s)⟩)
  (packable : s.wireType.packable)
include distinct packable

/-- However a list of numbers is cut into pieces, and whatever other records stand between them, the
field holds all of the numbers in their order, and the other fields hold what they hold if the
numbers are left out. -/
theorem decode_pieces {pieces : List (Piece s)} (fits : ∀ piece ∈ pieces, piece.Fits number) :
    decode i (pieces.flatMap (Piece.bytes number)) =
      (decode i (pieces.flatMap Piece.rest)).map fun m =>
        m.set place (.repeated (.ofList ((pieces.flatMap Piece.values).map .scalar))) := by
  have hbytes : records (pieces.flatMap (Piece.bytes number)) =
      ⟨pieces.flatMap (Piece.records number), none⟩ :=
    records_flatMap fun piece hpiece => Piece.records_bytes packable (fits piece hpiece)
  have hrest : records (pieces.flatMap Piece.rest) =
      ⟨pieces.flatMap fun piece => (records piece.rest).items, none⟩ :=
    records_flatMap fun piece hpiece => (Piece.wholeRecords_rest (fits piece hpiece)).records_eq
  have habsorb := Piece.absorbEach_flatMap_records decode place (distinct i) packable fits
    (Message.default i) .nil
  have hdefault : (Message.default i).set place (.repeated .nil) = Message.default i :=
    Slots.set_default (c := c) place
  rw [hdefault] at habsorb
  rw [decode, decode, decodeInto_of_records distinct hbytes,
    decodeInto_of_records distinct hrest, habsorb]
  rfl

include place in
/-- A block that is an overflow is one whatever the message holds. -/
theorem refusal?_block {block : Bytes}
    (h : failure? ((Values.nil : Values c (.scalar s)).pushBlock decode block) =
      some .bufferOverflow) :
    refusal? decode (c.fields i) ⟨(tag number .lengthDelimited).toUInt64, .block block⟩ =
      some .bufferOverflow := by
  have hkey : (tag number .lengthDelimited).toUInt64 ∈
      keysOf number (.repeated (.scalar s : Element c.size)) :=
    mem_keysOf_repeated.mpr (.inr ⟨packable, rfl⟩)
  have hslot := Slot.absorb_block (c := c) decode number packable block .nil
  rw [refusal?, ← Slots.set_default place,
    Slots.absorb_set_of_mem decode (distinct i) place hkey, Wire.failure?_map]
  refine (congrArg failure? hslot).trans ?_
  rw [Wire.failure?_map, h]

include place in
/-- A packed block that is cut short makes the input an overflow, whatever stands behind the block,
unless the records before it are refused. -/
theorem failure?_decode_cutShort {front block : Bytes} (whole : WholeRecords front)
    (cut : CutShort s block) (hlen : block.length < UInt64.size) (back : Bytes) :
    failure? (decode i (front ++ (keyBytes number .lengthDelimited ++
        Wire.Delimited.encode block) ++ back)) =
      (failure? (decode i front)).or (some .bufferOverflow) := by
  have hrefusal := refusal?_block distinct place packable (cut.failure?_pushBlock packable .nil)
  have hbehind : ∀ m : Message c i, failure? (decodeInto i m ((keyBytes number .lengthDelimited ++
      Wire.Delimited.encode block) ++ back)) = some .bufferOverflow := by
    intro m
    rw [decodeInto_eq distinct, failure?_absorbAll, records_block number hlen,
      List.findSome?_cons, hrefusal]
    rfl
  rw [List.append_assoc, decode, decodeInto_append distinct whole]
  exact Wire.failure?_bind hbehind _

end

end Wiregen.Codec
