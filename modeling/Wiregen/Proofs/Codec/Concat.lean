import Wiregen.Failure
import Wiregen.Proofs.Codec.Absorb
import Wiregen.Proofs.Codec.Refusal
import Wiregen.Proofs.Wire.Boundary

/-!
# Inputs behind each other

An input can be cut behind whole records: reading it is reading what is before the cut and then
what is behind it into the message that was read so far (`decodeInto_append`). For a message it
counts which records each of its fields finds in the input, in which order, and nothing else
(`decode_congr`). So a record of no field can stand anywhere (`decode_insert_unknown`), unless its
wire type says no length (`decode_insert_unframed`), and records of different fields can stand in
either order (`decode_swap`). An input that is cut off anywhere but behind a record is an overflow
(`failure?_decode_take`).
-/

namespace Wiregen.Codec

open Wire (Boundary Bytes Payload Split WireType failure? wireBits)

variable {c : Catalog} {i : Fin c.size}

/-! ## Whole records -/

/-- Bytes that are whole records, one after the other, so that an input can be cut behind them. -/
def WholeRecords (input : Bytes) : Prop := (records input).broken = none

instance (input : Bytes) : Decidable (WholeRecords input) :=
  inferInstanceAs (Decidable (_ = none))

/-- Whole records are split with nothing broken behind them. -/
theorem WholeRecords.records_eq {input : Bytes} (whole : WholeRecords input) :
    records input = ⟨(records input).items, none⟩ := by
  rw [← whole]

/-- A record is read from its own bytes, whatever is behind them. -/
theorem Record.read_looksAtFront : Record.read.LooksAtFront :=
  Wire.Varint.read_looksAtFront.andThen fun key =>
    (Payload.readFramed_looksAtFront (wireBits key)).map _

/-- The records of an input are those before a cut and then those behind it. -/
theorem WholeRecords.records_append {front : Bytes} (whole : WholeRecords front) (back : Bytes) :
    records (front ++ back) =
      ⟨(records front).items ++ (records back).items, (records back).broken⟩ :=
  Wire.split_append Record.read_looksAtFront whole back

/-- A record in front is the first of the records. -/
theorem records_of_read {x : Bytes} {r : Record} (h : Record.read x = .ok (r, [])) (back : Bytes) :
    records (x ++ back) = ⟨r :: (records back).items, (records back).broken⟩ :=
  Wire.split_of_ok (Record.read_looksAtFront.append h back)

/-- The records of parts behind each other are those of each part. -/
theorem records_flatMap {α : Type} {parts : List α} {write : α → Bytes}
    {recordsOf : α → List Record} (h : ∀ a ∈ parts, records (write a) = ⟨recordsOf a, none⟩) :
    records (parts.flatMap write) = ⟨parts.flatMap recordsOf, none⟩ := by
  induction parts with
  | nil => exact Wire.split_nil
  | cons a parts ih =>
    have ha := h a List.mem_cons_self
    have hparts := ih fun b hb => h b (List.mem_cons_of_mem a hb)
    have whole : WholeRecords (write a) := by rw [WholeRecords, ha]
    rw [List.flatMap_cons, whole.records_append, ha, hparts, List.flatMap_cons]

/-! ## Reading in two parts -/

section
variable (distinct : ∀ j, KeysDistinct (c.fields j))
include distinct

/-- An input is read into a message if it is whole records that can all be taken in. -/
theorem decodeInto_eq_ok {m m' : Message c i} {input : Bytes} :
    decodeInto i m input = .ok m' ↔
      WholeRecords input ∧ m.absorbEach decode (records input).items = .ok m' := by
  rw [decodeInto_eq distinct]
  exact Split.fold_eq_ok

/-- What is behind a cut is read into the message that is read before it. -/
theorem decodeInto_append {front : Bytes} (whole : WholeRecords front) (m : Message c i)
    (back : Bytes) :
    decodeInto i m (front ++ back) =
      (decodeInto i m front).bind fun m => decodeInto i m back := by
  have hfront := decodeInto_of_records distinct whole.records_eq m
  have hback : ∀ m : Message c i,
      decodeInto i m back = (records back).fold (Slots.absorb decode) m :=
    fun m => decodeInto_eq distinct m back
  rw [decodeInto_eq distinct, absorbAll, whole.records_append, Split.fold_append, hfront]
  simp only [hback]
  rfl

/-- What is behind an input that is read is read into its message. -/
theorem decode_behind {front : Bytes} {m : Message c i} (h : decode i front = .ok m)
    (back : Bytes) : decode i (front ++ back) = decodeInto i m back := by
  have whole := ((decodeInto_eq_ok distinct).mp h).1
  rw [decode, decodeInto_append distinct whole, ← decode, h]
  rfl

/-- What is before a cut can be read if the whole can. -/
theorem exists_decode_front {front back : Bytes} (whole : WholeRecords front) {m : Message c i}
    (h : decode i (front ++ back) = .ok m) : ∃ m₀ : Message c i, decode i front = .ok m₀ := by
  rw [decode, decodeInto_append distinct whole] at h
  obtain ⟨m₀, hm₀, -⟩ := bind_eq_ok.mp h
  exact ⟨m₀, hm₀⟩

/-- Why an input cannot be read into a message is the same for all messages. -/
theorem failure?_decodeInto (m m' : Message c i) (input : Bytes) :
    failure? (decodeInto i m input) = failure? (decodeInto i m' input) := by
  rw [decodeInto_eq distinct, decodeInto_eq distinct, failure?_absorbAll, failure?_absorbAll]

/-- Two inputs give the same message if every field finds the same records in them, whatever its
place among those of other fields is. -/
theorem decode_congr {input input' : Bytes}
    (hbroken : (records input).broken = (records input').broken)
    (h : ∀ f ∈ c.fields i, (records input).items.filter (·.key ∈ f.keys) =
      (records input').items.filter (·.key ∈ f.keys)) {m : Message c i} :
    decode i input = .ok m ↔ decode i input' = .ok m := by
  rw [decode, decode, decodeInto_eq_ok distinct, decodeInto_eq_ok distinct, WholeRecords,
    WholeRecords, hbroken, Slots.absorbEach_congr h]

/-! ## Inputs cut off -/

/-- Of an input that can be read the first records can be, and no other part that it starts with:
that one is an overflow. -/
theorem failure?_decode_take {input : Bytes} {m : Message c i} (h : decode i input = .ok m)
    {k : Nat} (hk : k ≤ input.length) :
    (Boundary Record.read input k → failure? (decode i (input.take k)) = none) ∧
      (¬ Boundary Record.read input k →
        failure? (decode i (input.take k)) = some .bufferOverflow) := by
  have hfailure : ∀ input : Bytes, failure? (decode i input) =
      ((records input).items.findSome? (refusal? decode (c.fields i))).or
        (records input).broken := fun input => by
    rw [decode, decodeInto_eq distinct, failure?_absorbAll]
  have hnone := hfailure input
  rw [h, Wire.failure?_ok, eq_comm, Option.or_eq_none_iff] at hnone
  obtain ⟨hitems, hwhole, hcut⟩ := Wire.split_take Record.read_looksAtFront hnone.2 hk
  -- No record that is left is refused, since none of all the records is.
  have hleft : (records (input.take k)).items.findSome? (refusal? decode (c.fields i)) = none :=
    hitems.findSome?_eq_none hnone.1
  rw [hfailure, hleft, Option.none_or]
  exact ⟨hwhole, hcut⟩

/-! ## Records of no field -/

/-- A record of no field changes nothing, wherever it stands. -/
theorem decode_insert_unknown {front extra : Bytes} {r : Record} (whole : WholeRecords front)
    (hextra : Record.read extra = .ok (r, [])) (unknown : ∀ f ∈ c.fields i, r.key ∉ f.keys)
    (back : Bytes) {m : Message c i} :
    decode i (front ++ extra ++ back) = .ok m ↔ decode i (front ++ back) = .ok m := by
  rw [List.append_assoc]
  refine decode_congr distinct ?_ fun f hf => ?_
  · rw [whole.records_append, whole.records_append, records_of_read hextra]
  · have hkey := unknown f hf
    rw [whole.records_append, whole.records_append, records_of_read hextra, List.filter_append,
      List.filter_append, List.filter_cons_of_neg (by simpa using hkey)]

/-- A key whose wire type says no length ends the reading wherever it stands. -/
theorem decode_insert_unframed {front extra payload : Bytes} {key : UInt64}
    (hkey : Wire.readKey extra = .ok (key, payload))
    (hwire : WireType.ofNumber? (wireBits key).toNat = none) {m : Message c i}
    (h : decode i front = .ok m) (back : Bytes) :
    decode i (front ++ extra ++ back) = .error (.unknownWireType (wireBits key)) := by
  have hmore : Wire.readKey (extra ++ back) = .ok (key, payload ++ back) :=
    Wire.Varint.read_looksAtFront.append hkey back
  have hread : Record.read (extra ++ back) = .error (.unknownWireType (wireBits key)) := by
    rw [Record.read, Wire.Reader.andThen_of_ok hmore, Wire.Reader.map, Payload.readFramed, hwire]
    rfl
  have hne : extra ++ back ≠ [] := by
    intro hnil
    rw [hnil] at hmore
    exact Nat.not_lt_zero _ (Wire.Varint.read_shortens hmore)
  have hrecords : records (extra ++ back) = ⟨[], some (.unknownWireType (wireBits key))⟩ :=
    Wire.split_of_error hne hread
  rw [List.append_assoc, decode_behind distinct h, decodeInto_eq distinct, absorbAll, hrecords]
  rfl

/-! ## Records of different fields -/

/-- Two records that no field has both keys of can be read in either order. -/
theorem decode_swap {front x y : Bytes} {r r' : Record} (whole : WholeRecords front)
    (hx : Record.read x = .ok (r, [])) (hy : Record.read y = .ok (r', []))
    (apart : ∀ f ∈ c.fields i, r.key ∈ f.keys → r'.key ∉ f.keys) (back : Bytes)
    {m : Message c i} :
    decode i (front ++ x ++ y ++ back) = .ok m ↔ decode i (front ++ y ++ x ++ back) = .ok m := by
  have hxy : records (front ++ (x ++ (y ++ back))) =
      ⟨(records front).items ++ r :: r' :: (records back).items, (records back).broken⟩ := by
    rw [whole.records_append, records_of_read hx, records_of_read hy]
  have hyx : records (front ++ (y ++ (x ++ back))) =
      ⟨(records front).items ++ r' :: r :: (records back).items, (records back).broken⟩ := by
    rw [whole.records_append, records_of_read hy, records_of_read hx]
  simp only [List.append_assoc]
  refine decode_congr distinct ?_ fun f hf => ?_
  · rw [hxy, hyx]
  · rw [hxy, hyx, List.filter_append, List.filter_append]
    refine congrArg _ ?_
    -- The field finds at most one of the two records, so it cannot tell their order.
    by_cases hr : r.key ∈ f.keys
    · simp [hr, apart f hf hr]
    · simp [List.filter_cons, hr]

end

/-- The keys of a field have its number in their upper bits. -/
theorem Field.shiftRight_of_mem_keys {n : Nat} {f : Field n} (h : f.number.toNat < 2 ^ 29)
    {key : UInt64} (hkey : key ∈ f.keys) : key >>> 3 = f.number.toUInt64 := by
  rw [keys, keysOf] at hkey
  obtain ⟨w, -, rfl⟩ := List.mem_map.mp hkey
  exact Wire.shiftRight_tag h w

end Wiregen.Codec
