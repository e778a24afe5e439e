import Wiregen.Proofs.Codec.Entry
import Wiregen.Proofs.Codec.Packed
import Wiregen.Proofs.Sample.Codecs

/-!
# Records of the sample's messages put together

The records of an input to a codec of the sample may come from several inputs, in several orders and
forms. One input behind another is read into the message of the first (`decode_append`), a list of
numbers may be cut into packed blocks and single numbers (`decode_numbers`), an entry of a map may
hold keys and values in any order and number (`decode_entries`), records of no field may stand
between any others (`decode_insert`), and records of different fields may change places
(`decode_exchange`). An input may end behind any of its records and nowhere else (`decode_take`).
-/

namespace Wiregen.Sample

open Codec (CutShort Element Entry Message Piece Place Record WholeRecords decode decodeInto encode
  keyBytes)
open Codec.Entry (Part)
open Wire (Boundary Bytes Scalar failure? mapKeyNumber mapValueNumber readKey skip tag wireBits)

/-! ## Inputs behind each other -/

/-- An input behind one that is read is read into the message of the first, and it is refused for
what is in it alone. So one written message behind another gives the scalars of the later one, its
messages where it has them and else those of the earlier one, and the lists and maps of both, one
behind the other. -/
theorem decode_append (i : Fin catalog.size) :
    (∀ (a b : Bytes) (m : Message catalog i), decode i a = .ok m →
      decode i (a ++ b) = decodeInto i m b ∧
        ∀ e, decode i (a ++ b) = .error e ↔ decode i b = .error e) ∧
    ∀ m m' : Message catalog i, m.Balanced → m'.Balanced →
      ∃ bytes bytes', encode m = some bytes ∧ encode m' = some bytes' ∧
        (bytes.length < UInt64.size → bytes'.length < UInt64.size →
          decode i (bytes ++ bytes') = .ok (m.followedBy m')) := by
  have hsplit : ∀ (a b : Bytes) (m : Message catalog i), decode i a = .ok m →
      decode i (a ++ b) = decodeInto i m b :=
    fun a b m h => Codec.decode_behind keysDistinct_catalog h b
  refine ⟨fun a b m h => ⟨hsplit a b m h, fun e => ?_⟩, fun m m' hm hm' => ?_⟩
  · rw [hsplit a b m h, ← Wire.failure?_eq_some, ← Wire.failure?_eq_some, decode,
      Codec.failure?_decodeInto keysDistinct_catalog m]
  · refine ⟨m.written.bytes, m'.written.bytes, Codec.encode_of_balanced hm,
      Codec.encode_of_balanced hm', fun hlen hlen' => ?_⟩
    rw [hsplit _ _ m (Codec.decode_written keysDistinct_catalog hm hlen)]
    exact Codec.decodeInto_written keysDistinct_catalog m hm' hlen'

/-- Loose bytes twice and loose bytes cut short, and an outer message behind itself. -/
theorem decode_append_outerMessage :
    (∃ m, decode (c := catalog) (2 : Fin 11) looseBytes = .ok m ∧
      decode (c := catalog) (2 : Fin 11) (looseBytes ++ looseBytes) =
        decodeInto (c := catalog) (2 : Fin 11) m looseBytes ∧
      decode (c := catalog) (2 : Fin 11) (looseBytes ++ [0x80]) = .error .bufferOverflow) ∧
    outerMessage.Balanced ∧ ∃ bytes, encode outerMessage = some bytes ∧
      bytes.length < UInt64.size ∧ decode (c := catalog) (2 : Fin 11) (bytes ++ bytes) =
        .ok (outerMessage.followedBy outerMessage) := by
  constructor
  · have hok : (decode (c := catalog) (2 : Fin 11) looseBytes).toOption.isSome = true := by
      with_unfolding_all decide
    obtain ⟨m, hm⟩ := toOption_isSome.mp hok
    have hcut : failure? (decode (c := catalog) (2 : Fin 11) [0x80]) = some .bufferOverflow := by
      with_unfolding_all decide
    have happend := (decode_append (2 : Fin 11)).1 looseBytes
    exact ⟨m, hm, (happend looseBytes m hm).1,
      ((happend [0x80] m hm).2 _).mpr (Wire.failure?_eq_some.mp hcut)⟩
  · have hbalanced : outerMessage.Balanced := by
      repeat' constructor
    obtain ⟨bytes, bytes', hbytes, hbytes', hdecode⟩ :=
      (decode_append (2 : Fin 11)).2 outerMessage outerMessage hbalanced hbalanced
    obtain rfl := Option.some.inj (hbytes.symm.trans hbytes')
    have hshort : ((encode outerMessage).all fun bytes => bytes.length < UInt64.size) = true := by
      decide +kernel
    rw [hbytes] at hshort
    have hlen := of_decide_eq_true hshort
    exact ⟨hbalanced, bytes, hbytes, hlen, hdecode hlen hlen⟩

/-! ## Lists of numbers -/

/-- The place of the list of signed numbers in an outer message. -/
def deltas : Place (catalog.fields (2 : Fin 11)) ⟨"deltas", 3, .repeated (.scalar .sint64)⟩ :=
  .there (.there .here)

/-- The place of the list of numbers in a batch. -/
def ids : Place (catalog.fields (5 : Fin 11)) ⟨"ids", 1, .repeated (.scalar .uint64)⟩ :=
  .here

/-- A list of numbers in a message of the sample (that is, the deltas of an outer message and the
ids of a batch) can be cut into pieces in every way, each of them a packed block or a record for
every number, with records of other fields between them: the list holds all of the numbers in their
order, and the other fields hold what they hold without them. A block is read on its own: one that
is cut short makes the input an overflow, whatever stands behind the block, unless it is refused for
what stands before it. -/
theorem decode_numbers (i : Fin catalog.size) {name : String} {number : UInt32} {s : Scalar}
    (place : Place (catalog.fields i) ⟨name, number, .repeated (.scalar s)⟩)
    (packable : s.wireType.packable) :
    (∀ pieces : List (Piece s), (∀ piece ∈ pieces, piece.Fits number) →
      decode i (pieces.flatMap (Piece.bytes number)) =
        (decode i (pieces.flatMap Piece.rest)).map fun m =>
          m.set place (.repeated (.ofList ((pieces.flatMap Piece.values).map .scalar)))) ∧
    ∀ front block back : Bytes, WholeRecords front → CutShort s block →
      block.length < UInt64.size →
      failure? (decode i (front ++ (keyBytes number .lengthDelimited ++
          Wire.Delimited.encode block) ++ back)) =
        (failure? (decode i front)).or (some .bufferOverflow) := by
  refine ⟨fun pieces fits => ?_, fun front block back whole cut hlen => ?_⟩
  · exact Codec.decode_pieces keysDistinct_catalog place packable fits
  · exact Codec.failure?_decode_cutShort keysDistinct_catalog place packable whole cut hlen back

/-- Deltas in pieces: two in a block, a name, one in a record, and an empty block. -/
def deltasInPieces : List (Piece .sint64) :=
  [.packed [1, -1], .others [0x42, 0x01, 0x61], .single [Int64.minValue], .packed []]

/-- The pieces are read as three deltas, and a number is not taken up again behind its block. -/
theorem decode_numbers_deltas :
    (∃ m, decode (c := catalog) (2 : Fin 11) [0x42, 0x01, 0x61] = .ok m ∧
      decode (c := catalog) (2 : Fin 11) (deltasInPieces.flatMap (Piece.bytes 3)) =
        .ok (m.set deltas (.repeated (.ofList [.scalar 1, .scalar (-1), .scalar Int64.minValue]))))
    ∧ decode (c := catalog) (5 : Fin 11) ([0x0A, 0x02, 0x05, 0x80] ++ [0x01]) =
        .error .bufferOverflow := by
  constructor
  · have hok : (decode (c := catalog) (2 : Fin 11) [0x42, 0x01, 0x61]).toOption.isSome = true := by
      with_unfolding_all decide
    obtain ⟨m, hm⟩ := toOption_isSome.mp hok
    have hfits : ∀ piece ∈ deltasInPieces, piece.Fits 3 := by
      with_unfolding_all decide
    have hrest : deltasInPieces.flatMap Piece.rest = [0x42, 0x01, 0x61] := rfl
    have hdecode := (decode_numbers (2 : Fin 11) deltas rfl).1 deltasInPieces hfits
    rw [hrest, hm] at hdecode
    exact ⟨m, hm, hdecode⟩
  · -- The number 128 is cut in two: its last byte stands behind the block.
    have hcut : CutShort .uint64 [0x05, 0x80] := by
      refine ⟨[[0x05]], [0x80], [0x01], rfl, ?_, by decide, by decide, 128, rfl⟩
      exact List.forall_mem_singleton.mpr ⟨5, rfl⟩
    have hbytes : ([0x0A, 0x02, 0x05, 0x80] : Bytes) =
        [] ++ (keyBytes 1 .lengthDelimited ++ Wire.Delimited.encode [0x05, 0x80]) := by
      with_unfolding_all decide
    have hoverflow := (decode_numbers (5 : Fin 11) ids rfl).2 [] [0x05, 0x80] [0x01]
      (by with_unfolding_all decide) hcut (by decide)
    rw [← hbytes] at hoverflow
    refine Wire.failure?_eq_some.mp (hoverflow.trans ?_)
    with_unfolding_all decide

/-! ## Map entries -/

/-- The place of the labels in an outer message. -/
def labels : Place (catalog.fields (2 : Fin 11))
    ⟨"labels", 5, .map (.scalar .int32) (.scalar .string)⟩ :=
  .there (.there (.there (.there .here)))

/-- The place of the lookup in an outer message. -/
def lookup : Place (catalog.fields (2 : Fin 11))
    ⟨"lookup", 6, .map (.scalar .string) (.message innerIndex)⟩ :=
  .there (.there (.there (.there (.there .here))))

/-- Behind an input that is read, an entry of a map in a message of the sample (that is, of the
labels or of the lookup of an outer message) whose block is keys and values, in any order and
number, adds one key and one value to the map, behind all that it holds: the last of its keys and
the last of its values, or a default where there is none. Where keys and values are followed by a
tag that is neither of theirs, be it with the number of one and another wire type, the input is
refused for this tag. A block is read on its own: a key or a value that is cut short by its end
makes the input an overflow, and what stands behind the entry is looked at only once all of the
entry is read. -/
theorem decode_entries (i : Fin catalog.size) {name : String} {number : UInt32}
    {k v : Element catalog.size} (place : Place (catalog.fields i) ⟨name, number, .map k v⟩)
    (front x tail block : Bytes) (m : Message catalog i) (hfront : decode i front = .ok m)
    (hkey : readKey x = .ok ((tag number .lengthDelimited).toUInt64, tail))
    (hblock : Wire.Delimited.read tail = .ok (block, [])) :
    (∀ parts : List (Part catalog k v), Part.AreIn decode block parts →
      decode i (front ++ x) = .ok (m.set place ((m.get place).pushEntry (.ofParts parts))) ∧
        ((m.get place).pushEntry (.ofParts parts)).keys =
          (m.get place).keys ++ [(Entry.ofParts parts).key] ∧
        ((m.get place).pushEntry (.ofParts parts)).values =
          (m.get place).values ++ [(Entry.ofParts parts).value]) ∧
    (∀ (start rest payload : Bytes) (parts : List (Part catalog k v)) (t : UInt64),
      block = start ++ rest → Part.AreIn decode start parts → readKey rest = .ok (t, payload) →
      t ≠ (tag mapKeyNumber k.wireType).toUInt64 → t ≠ (tag mapValueNumber v.wireType).toUInt64 →
      decode i (front ++ x) = .error (.unexpectedMapEntryTag t)) ∧
    (∀ (start cut missing : Bytes) (parts : List (Part catalog k v)) (part : Part catalog k v),
      block = start ++ cut → Part.AreIn decode start parts → cut ≠ [] → missing ≠ [] →
      part.IsIn decode (cut ++ missing) → decode i (front ++ x) = .error .bufferOverflow) ∧
    ∀ back : Bytes, decode i (front ++ x ++ back) =
      (decode i (front ++ x)).bind fun m => decodeInto i m back := by
  have hx := Codec.decode_entry keysDistinct_catalog place hfront hkey hblock
  refine ⟨fun parts h => ?_, fun start rest payload parts t hb h ht hk hv => ?_,
    fun start cut missing parts part hb h hcut hmissing hpart => ?_, fun back => ?_⟩
  · refine ⟨?_, Codec.Slot.keys_pushEntry _ _, Codec.Slot.values_pushEntry _ _⟩
    rw [hx, Codec.Entry.ofBlock_parts h]
    rfl
  · rw [hx, hb, Codec.Entry.ofBlock_of_tag h ht hk hv]
    rfl
  · rw [hx, hb, Codec.Entry.ofBlock_cut h hcut hmissing hpart]
    rfl
  · exact Codec.decode_behind_block keysDistinct_catalog hfront hkey hblock back

/-- A label with two keys and two values, a label whose value would go on behind it, and an entry of
the lookup in which the number of the value comes with another wire type. -/
theorem decode_entries_outer :
    let front : Bytes := [0x42, 0x01, 0x61]
    ∃ m, decode (c := catalog) (2 : Fin 11) front = .ok m ∧
      decode (c := catalog) (2 : Fin 11)
          (front ++ [0x2A, 0x09, 0x12, 0x01, 0x7A, 0x08, 0x09, 0x12, 0x00, 0x08, 0x05]) =
        .ok (m.set labels ((m.get labels).pushEntry ⟨.scalar 5, .scalar ""⟩)) ∧
      ((m.get labels).pushEntry ⟨.scalar 5, .scalar ""⟩).keys =
        (m.get labels).keys ++ [.scalar 5] ∧
      ((m.get labels).pushEntry ⟨.scalar 5, .scalar ""⟩).values =
        (m.get labels).values ++ [.scalar ""] ∧
      decode (c := catalog) (2 : Fin 11)
        (front ++ [0x2A, 0x02, 0x12, 0x05] ++ [0x61, 0x62, 0x63, 0x64, 0x65]) =
          .error .bufferOverflow ∧
      decode (c := catalog) (2 : Fin 11) (front ++ [0x32, 0x05, 0x0A, 0x01, 0x6B, 0x10, 0x01]) =
        .error (.unexpectedMapEntryTag 0x10) := by
  intro front
  have hok : (decode (c := catalog) (2 : Fin 11) front).toOption.isSome = true := by
    with_unfolding_all decide
  obtain ⟨m, hm⟩ := toOption_isSome.mp hok
  have hparts : Part.AreIn (k := .scalar .int32) (v := .scalar .string) (decode (c := catalog))
      ([0x12, 0x01, 0x7A] ++ ([0x08, 0x09] ++ ([0x12, 0x00] ++ ([0x08, 0x05] ++ []))))
      [.value (.scalar "z"), .key (.scalar 9), .value (.scalar ""), .key (.scalar 5)] :=
    .cons ⟨_, rfl, rfl⟩ (.cons ⟨_, rfl, rfl⟩ (.cons ⟨_, rfl, rfl⟩ (.cons ⟨_, rfl, rfl⟩ .nil)))
  obtain ⟨hread, hkeys, hvalues⟩ := (decode_entries (2 : Fin 11) labels front
    [0x2A, 0x09, 0x12, 0x01, 0x7A, 0x08, 0x09, 0x12, 0x00, 0x08, 0x05] _ _ m hm rfl rfl).1 _ hparts
  refine ⟨m, hm, hread, hkeys, hvalues, ?_, ?_⟩
  · have hvalue : Part.IsIn (k := .scalar .int32) (v := .scalar .string) (decode (c := catalog))
        ([0x12, 0x05] ++ [0x61, 0x62, 0x63, 0x64, 0x65]) (.value (.scalar "abcde")) :=
      ⟨_, rfl, rfl⟩
    obtain ⟨-, -, hcut, hbehind⟩ := decode_entries (2 : Fin 11) labels front
      [0x2A, 0x02, 0x12, 0x05] [0x02, 0x12, 0x05] [0x12, 0x05] m hm rfl rfl
    rw [hbehind, hcut [] _ _ [] _ rfl .nil (by decide) (by decide) hvalue]
    rfl
  · have hkey : Part.AreIn (k := .scalar .string) (v := .message innerIndex)
        (decode (c := catalog)) ([0x0A, 0x01, 0x6B] ++ []) [.key (.scalar "k")] :=
      .cons ⟨_, rfl, rfl⟩ .nil
    exact (decode_entries (2 : Fin 11) lookup front _ _ _ m hm rfl rfl).2.1 [0x0A, 0x01, 0x6B]
      [0x10, 0x01] _ _ _ rfl hkey rfl (by decide) (by decide)

/-! ## Records of no field -/

/-- In an input that is read, a record of no field can stand in front, between any two records and
at the end, and changes nothing: its number is not known, or it is but not with its wire type. A key
whose wire type says no length ends the reading at any of these places. -/
theorem decode_insert (i : Fin catalog.size) (front back : Bytes) (m : Message catalog i)
    (whole : WholeRecords front) (h : decode i (front ++ back) = .ok m) (extra payload : Bytes)
    (key : UInt64) (hkey : readKey extra = .ok (key, payload)) :
    ((∀ f ∈ catalog.fields i, key ∉ f.keys) → skip (wireBits key) payload = .ok ((), []) →
      decode i (front ++ extra ++ back) = .ok m) ∧
    (wireBits key ∈ ([3, 4, 6, 7] : List UInt64) →
      decode i (front ++ extra ++ back) = .error (.unknownWireType (wireBits key))) := by
  constructor
  · intro unknown hskip
    rw [Wire.Payload.skip_eq_readFramed] at hskip
    obtain ⟨p, hp, -⟩ := Wire.Reader.map_eq_ok hskip
    have hextra : Record.read extra = .ok (⟨key, p⟩, []) := by
      rw [Record.read, Wire.Reader.andThen_of_ok hkey, Wire.Reader.map_of_ok hp]
    exact (Codec.decode_insert_unknown keysDistinct_catalog whole hextra unknown back).mpr h
  · intro hwire
    have hnone : Wire.WireType.ofNumber? (wireBits key).toNat = none := by
      simp only [List.mem_cons, List.not_mem_nil, or_false] at hwire
      rcases hwire with h | h | h | h <;> (rw [h]; rfl)
    obtain ⟨m₀, hfront⟩ := Codec.exists_decode_front keysDistinct_catalog whole h
    exact Codec.decode_insert_unframed keysDistinct_catalog hkey hnone hfront back

/-- The number of the inserted key is 2 ^ 29 + 1: cut to 32 bits it would be the key of the number
in front. -/
theorem decode_insert_inner :
    ∃ m, decode (c := catalog) (1 : Fin 11) ([0x08, 0x05] ++ [0x12, 0x01, 0x61]) = .ok m ∧
      decode (c := catalog) (1 : Fin 11) ([0x08, 0x05] ++ [0x88, 0x80, 0x80, 0x80, 0x10, 0x63] ++
        [0x12, 0x01, 0x61]) = .ok m ∧
      decode (c := catalog) (1 : Fin 11) ([0x08, 0x05] ++ [0x0B] ++ [0x12, 0x01, 0x61]) =
        .error (.unknownWireType 3) := by
  have hok : (decode (c := catalog) (1 : Fin 11)
      ([0x08, 0x05] ++ [0x12, 0x01, 0x61])).toOption.isSome = true := by
    with_unfolding_all decide
  obtain ⟨m, hm⟩ := toOption_isSome.mp hok
  have hwhole : WholeRecords [0x08, 0x05] := by
    with_unfolding_all decide
  have hunknown : ∀ f ∈ catalog.fields (1 : Fin 11), (0x100000008 : UInt64) ∉ f.keys := by
    decide
  have hinsert := decode_insert (1 : Fin 11) [0x08, 0x05] [0x12, 0x01, 0x61] m hwhole hm
  exact ⟨m, hm,
    (hinsert [0x88, 0x80, 0x80, 0x80, 0x10, 0x63] [0x63] 0x100000008 rfl).1 hunknown rfl,
    (hinsert [0x0B] [] 0x0B rfl).2 (by decide)⟩

/-! ## Records of different fields -/

/-- Field numbers of the sample are no larger than keys have room for. -/
theorem number_lt_catalog : ∀ i, ∀ f ∈ catalog.fields i, f.number.toNat < 2 ^ 29 := by
  decide

/-- Two records with different field numbers, one behind the other, can change places. -/
theorem decode_exchange (i : Fin catalog.size) (front back x y : Bytes) (r r' : Record)
    (whole : WholeRecords front) (hx : Record.read x = .ok (r, []))
    (hy : Record.read y = .ok (r', [])) (apart : r.key >>> 3 ≠ r'.key >>> 3)
    (m : Message catalog i) :
    decode i (front ++ x ++ y ++ back) = .ok m ↔ decode i (front ++ y ++ x ++ back) = .ok m := by
  refine Codec.decode_swap keysDistinct_catalog whole hx hy (fun f hf hr hr' => apart ?_) back
  have hlt := number_lt_catalog i f hf
  rw [Codec.Field.shiftRight_of_mem_keys hlt hr, Codec.Field.shiftRight_of_mem_keys hlt hr']

/-- A label behind a number, and before it. -/
theorem decode_exchange_inner :
    ∃ m, decode (c := catalog) (1 : Fin 11)
        ([0x08, 0x07] ++ [0x08, 0x05] ++ [0x12, 0x01, 0x61] ++ []) = .ok m ∧
      decode (c := catalog) (1 : Fin 11)
        ([0x08, 0x07] ++ [0x12, 0x01, 0x61] ++ [0x08, 0x05] ++ []) = .ok m := by
  have hok : (decode (c := catalog) (1 : Fin 11)
      ([0x08, 0x07] ++ [0x08, 0x05] ++ [0x12, 0x01, 0x61] ++ [])).toOption.isSome = true := by
    with_unfolding_all decide
  obtain ⟨m, hm⟩ := toOption_isSome.mp hok
  have hwhole : WholeRecords [0x08, 0x07] := by
    with_unfolding_all decide
  have hiff := decode_exchange (1 : Fin 11) [0x08, 0x07] [] [0x08, 0x05] [0x12, 0x01, 0x61]
    ⟨8, .word 5⟩ ⟨18, .block [0x61]⟩ hwhole rfl rfl (by decide) m
  exact ⟨m, hm, hiff.mp hm⟩

/-! ## Inputs cut off -/

/-- What is left of an input that is read, once it is cut off, is read exactly if the cut is between
two records, at the start or at the end. Anywhere else, be it in a key, a length, a number, a nested
message, a packed block or an entry, the input is an overflow. -/
theorem decode_take (i : Fin catalog.size) (input : Bytes) (m : Message catalog i)
    (h : decode i input = .ok m) :
    Boundary Record.read input 0 ∧ Boundary Record.read input input.length ∧
      ∀ k ≤ input.length,
        ((∃ m', decode i (input.take k) = .ok m') ↔ Boundary Record.read input k) ∧
        (decode i (input.take k) = .error .bufferOverflow ↔ ¬ Boundary Record.read input k) := by
  have hcut : ∀ k ≤ input.length,
      ((∃ m', decode i (input.take k) = .ok m') ↔ Boundary Record.read input k) ∧
      (decode i (input.take k) = .error .bufferOverflow ↔ ¬ Boundary Record.read input k) := by
    intro k hk
    obtain ⟨hwhole, hshort⟩ := Codec.failure?_decode_take keysDistinct_catalog h hk
    by_cases hb : Boundary Record.read input k
    · obtain ⟨m', hm'⟩ := Wire.failure?_eq_none.mp (hwhole hb)
      simp [hm', hb]
    · have he := Wire.failure?_eq_some.mp (hshort hb)
      simp [he, hb]
  refine ⟨.start input, ?_, hcut⟩
  refine (hcut input.length (Nat.le_refl _)).1.mp ⟨m, ?_⟩
  rwa [List.take_length]

/-- A child and a number, cut off between them and in each. -/
theorem decode_take_outer :
    let input : Bytes := [0x0A, 0x02, 0x08, 0x07, 0x18, 0x83, 0x80, 0x00]
    (∃ m, decode (c := catalog) (2 : Fin 11) input = .ok m) ∧
      (∃ m, decode (c := catalog) (2 : Fin 11) (input.take 4) = .ok m) ∧
      decode (c := catalog) (2 : Fin 11) (input.take 3) = .error .bufferOverflow ∧
      decode (c := catalog) (2 : Fin 11) (input.take 6) = .error .bufferOverflow := by
  intro input
  have hok : (decode (c := catalog) (2 : Fin 11) input).toOption.isSome = true := by
    with_unfolding_all decide
  obtain ⟨m, hm⟩ := toOption_isSome.mp hok
  obtain ⟨-, -, hcut⟩ := decode_take (2 : Fin 11) input m hm
  have hchild : Record.read ([0x0A, 0x02, 0x08, 0x07] ++ [0x18, 0x83, 0x80, 0x00]) =
      .ok (⟨10, .block [0x08, 0x07]⟩, [0x18, 0x83, 0x80, 0x00]) := rfl
  have hnumber : Record.read ([0x18, 0x83, 0x80, 0x00] ++ []) = .ok (⟨24, .word 3⟩, []) := rfl
  refine ⟨⟨m, hm⟩, (hcut 4 (by decide)).1.mpr ?_, (hcut 3 (by decide)).2.mpr ?_,
    (hcut 6 (by decide)).2.mpr ?_⟩
  · exact (Wire.boundary_add_iff (k := 0) hchild (by decide)).mpr (.start _)
  · exact Wire.not_boundary_of_lt hchild (by decide) (by decide)
  · intro hb
    have hb := (Wire.boundary_add_iff (k := 2) hchild (by decide)).mp hb
    exact Wire.not_boundary_of_lt hnumber (by decide) (by decide) hb

end Wiregen.Sample
