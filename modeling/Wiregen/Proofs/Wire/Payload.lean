import Wiregen.Proofs.Wire.Front
import Wiregen.Proofs.Wire.Tag
import Wiregen.Wire.Scalar

/-!
# Payloads

What stands behind the key of a record is framed by its wire type alone and means something by its
field's type alone. Framing gives a `Payload`, a word or a block; a scalar type says which value a
payload stands for (`Scalar.ofPayload`) and which payload stands for a value
(`Scalar.toPayload`). Reading a scalar is framing and then meaning (`Scalar.read_eq`), writing it is
the same backwards (`Scalar.encode_eq`), and so a scalar is read back once the four framings
are (`Payload.read_encode`).
-/

namespace Wiregen.Wire

/-- What a record holds behind its key. -/
inductive Payload where
  /-- A number of at most 64 bits. -/
  | word (w : UInt64)
  | block (bytes : Bytes)
  deriving DecidableEq, Repr

namespace Payload

/-- The number of a word; a block stands for none. -/
def number : Payload → UInt64
  | .word w => w
  | .block _ => 0

/-- The bytes of a block; a word has none. -/
def content : Payload → Bytes
  | .word _ => []
  | .block bytes => bytes

@[simp] theorem number_word (w : UInt64) : (word w).number = w := rfl

@[simp] theorem content_block (bytes : Bytes) : (block bytes).content = bytes := rfl

/-- The payload at the front of the input, framed by a wire type. -/
def read : WireType → Reader Payload
  | .varint => Varint.read.map .word
  | .fixed64 => (Fixed.read 8).map fun n => .word (UInt64.ofNat n)
  | .lengthDelimited => Delimited.read.map .block
  | .fixed32 => (Fixed.read 4).map fun n => .word (UInt64.ofNat n)

/-- The payload at the front of the input, framed by the low bits of a key. -/
def readFramed (wire : UInt64) : Reader Payload :=
  match WireType.ofNumber? wire.toNat with
  | some w => read w
  | none => fun _ => .error (.unknownWireType wire)

/-- The bytes of a payload framed by a wire type. -/
def encode : WireType → Payload → Bytes
  | .varint, p => Varint.encode p.number.toNat
  | .fixed64, p => Fixed.encode 8 p.number.toNat
  | .lengthDelimited, p => Delimited.encode p.content
  | .fixed32, p => Fixed.encode 4 p.number.toNat

/-- A payload that a wire type has room for. -/
def Fits : WireType → Payload → Prop
  | .varint, .word _ => True
  | .fixed64, .word _ => True
  | .lengthDelimited, .block bytes => bytes.length < UInt64.size
  | .fixed32, .word w => w.toNat < 2 ^ 32
  | _, _ => False

/-! ## Framing -/

/-- A payload takes at least one byte, whatever its framing. -/
theorem read_shortens (w : WireType) : (read w).Shortens := by
  unfold read
  cases w with
  | varint => exact Varint.read_shortens.map _
  | fixed64 => exact Reader.Shortens.map (Fixed.read_shortens (by decide : 0 < 8)) _
  | lengthDelimited => exact Delimited.read_shortens.map _
  | fixed32 => exact Reader.Shortens.map (Fixed.read_shortens (by decide : 0 < 4)) _

/-- A payload that is framed by the bits of a key takes at least one byte. -/
theorem readFramed_shortens (wire : UInt64) : (readFramed wire).Shortens := by
  unfold readFramed
  split
  next w _ => exact read_shortens w
  next => intro input p rest h; cases h

/-- A payload is read from its own bytes. -/
theorem read_looksAtFront (w : WireType) : (read w).LooksAtFront := by
  unfold read
  cases w with
  | varint => exact Varint.read_looksAtFront.map _
  | fixed64 => exact Reader.LooksAtFront.map (Fixed.read_looksAtFront 8) _
  | lengthDelimited => exact Delimited.read_looksAtFront.map _
  | fixed32 => exact Reader.LooksAtFront.map (Fixed.read_looksAtFront 4) _

/-- A payload that is framed by the bits of a key is read from its own bytes. -/
theorem readFramed_looksAtFront (wire : UInt64) : (readFramed wire).LooksAtFront := by
  unfold readFramed
  split
  next w _ => exact read_looksAtFront w
  next => intro input p rest h; cases h

/-- A payload is refused whatever stands behind it, if the input does not end too soon. -/
theorem read_refusesAtFront (w : WireType) : (read w).RefusesAtFront := by
  unfold read
  cases w with
  | varint => exact Varint.read_refusesAtFront.map _
  | fixed64 => exact Reader.RefusesAtFront.map (Fixed.read_refusesAtFront 8) _
  | lengthDelimited => exact Delimited.read_refusesAtFront.map _
  | fixed32 => exact Reader.RefusesAtFront.map (Fixed.read_refusesAtFront 4) _

/-- Low bits that frame nothing are refused whatever the input is. -/
theorem readFramed_refusesAtFront (wire : UInt64) : (readFramed wire).RefusesAtFront := by
  unfold readFramed
  split
  next w _ => exact read_refusesAtFront w
  next => exact fun input e h _ _ => h

/-- Low bits that are a wire type frame as it does. -/
theorem readFramed_number (w : WireType) : readFramed w.number.toUInt64 = read w := by
  have hnumber : w.number.toUInt64.toNat = w.number.toNat := by simp
  rw [readFramed, hnumber, WireType.ofNumber?_number]

/-- The low bits of a field's key frame as its wire type does. -/
theorem readFramed_wireBits_tag (number : UInt32) (w : WireType) :
    readFramed (wireBits (tag number w).toUInt64) = read w := by
  rw [wireBits_tag, readFramed_number]

/-- Passing over a payload is framing it. -/
theorem skip_eq_readFramed (wire : UInt64) :
    skip wire = (readFramed wire).map fun _ => () := by
  unfold skip readFramed
  cases WireType.ofNumber? wire.toNat with
  | none => rfl
  | some w => cases w <;> simp only [read, Fixed.read, Reader.map_map]

/-- The bytes of a block that is read are less than the input. -/
theorem length_content_lt {w : WireType} {input rest : Bytes} {p : Payload}
    (h : read w input = .ok (p, rest)) : p.content.length < input.length := by
  have hpos : 0 < input.length := Nat.lt_of_le_of_lt (Nat.zero_le _) (read_shortens w h)
  cases w with
  | varint | fixed64 | fixed32 =>
    unfold read at h
    obtain ⟨n, -, rfl⟩ := Reader.map_eq_ok h
    exact hpos
  | lengthDelimited =>
    obtain ⟨content, hr, rfl⟩ := Reader.map_eq_ok h
    exact Delimited.length_lt_of_read hr

/-- The block in a payload is shorter than the input that the payload is read from. -/
theorem length_content_lt_of_framed {wire : UInt64} {input rest : Bytes} {p : Payload}
    (h : readFramed wire input = .ok (p, rest)) : p.content.length < input.length := by
  unfold readFramed at h
  cases hw : WireType.ofNumber? wire.toNat with
  | none => rw [hw] at h; cases h
  | some w => rw [hw] at h; exact length_content_lt h

/-- A payload that its wire type has room for is read back, whatever is behind it. -/
theorem read_encode {w : WireType} {p : Payload} (h : p.Fits w) (rest : Bytes) :
    read w (p.encode w ++ rest) = .ok (p, rest) := by
  match w, p, h with
  | .varint, .word v, _ =>
    rw [read, encode, number_word, Reader.map_of_ok (Varint.read_encode v.toNat_lt rest),
      UInt64.ofNat_toNat]
  | .fixed64, .word v, _ =>
    have hv : v.toNat < 256 ^ 8 := v.toNat_lt
    rw [read, encode, number_word, Reader.map_of_ok (Fixed.read_encode hv rest),
      UInt64.ofNat_toNat]
  | .lengthDelimited, .block bytes, h =>
    rw [read, encode, content_block, Reader.map_of_ok (Delimited.read_encode h rest)]
  | .fixed32, .word v, h =>
    have hv : v.toNat < 256 ^ 4 := h
    rw [read, encode, number_word, Reader.map_of_ok (Fixed.read_encode hv rest),
      UInt64.ofNat_toNat]

end Payload

/-! ## Signed numbers -/

/-- The index of an integer near zero is small. -/
theorem Zigzag.index_lt {z : Int} {b : Nat} (hlo : -(b : Int) ≤ z) (hhi : z < b) :
    index z < 2 * b := by
  unfold index
  split <;> omega

/-- The index of an integer of 64 bits is a word of 64 bits. -/
theorem index_toInt64_lt (v : Int64) : Zigzag.index v.toInt < UInt64.size :=
  Zigzag.index_lt (b := 2 ^ 63) v.le_toInt v.toInt_lt

/-- The index of an integer of 32 bits is a word of 32 bits. -/
theorem index_toInt32_lt (v : Int32) : Zigzag.index v.toInt < UInt32.size :=
  Zigzag.index_lt (b := 2 ^ 31) v.le_toInt v.toInt_lt

/-- The two's complement of an integer is a word. -/
theorem toNat_emod_lt (z : Int) : (z % UInt64.size).toNat < UInt64.size :=
  (Int.toNat_lt (Int.emod_nonneg _ (by decide))).mpr (Int.emod_lt_of_pos _ (by decide))

/-- The bits of a 64-bit number make it up again. -/
theorem int64_ofNat_toInt (v : Int64) : Int64.ofNat (v.toInt % UInt64.size).toNat = v := by
  have hnonneg : 0 ≤ v.toInt % UInt64.size := Int.emod_nonneg _ (by decide)
  rw [← Int64.ofInt_eq_ofNat, Int.toNat_of_nonneg hnonneg, Int64.ofInt_eq_iff_bmod_eq_toInt]
  exact (Int.emod_bmod v.toInt UInt64.size).trans v.toInt_bmod

/-- Of the two's complement of an integer the low 32 bits say what the integer is but for multiples
of their range. -/
theorem toInt_int32_ofNat (z : Int) :
    (Int32.ofNat (z % UInt64.size).toNat).toInt = z.bmod UInt32.size := by
  have hnonneg : 0 ≤ z % UInt64.size := Int.emod_nonneg _ (by decide)
  have hdvd : (UInt32.size : Int) ∣ UInt64.size := by decide
  rw [Int32.toInt_ofNat', Int.toNat_of_nonneg hnonneg]
  calc (z % UInt64.size).bmod UInt32.size
      = (z % UInt64.size % UInt32.size).bmod UInt32.size := (Int.emod_bmod _ _).symm
    _ = (z % UInt32.size).bmod UInt32.size := by rw [Int.emod_emod_of_dvd _ hdvd]
    _ = z.bmod UInt32.size := Int.emod_bmod _ _

/-- The bits of a 32-bit number make it up again, its sign extension cut off. -/
theorem int32_ofNat_toInt (v : Int32) : Int32.ofNat (v.toInt % UInt64.size).toNat = v := by
  apply Int32.toInt_inj.mp
  rw [toInt_int32_ofNat]
  exact v.toInt_bmod

/-! ## Numbers cut to their width

A word of 32 or 64 bits that is read into 64 bits and cut to its own width is what it was.
-/

/-- A number cut to 64 bits and then to 32 is cut to 32. -/
theorem toUInt32_ofNat (n : Nat) : (UInt64.ofNat n).toUInt32 = UInt32.ofNat n := by
  apply UInt32.toNat_inj.mp
  simp

/-- A number cut to 64 bits is the same integer of 32 bits. -/
theorem int32_ofNat_toNat (n : Nat) : Int32.ofNat (UInt64.ofNat n).toNat = Int32.ofNat n := by
  apply Int32.toBitVec_inj.mp
  apply BitVec.eq_of_toNat_eq
  simp

/-- A number cut to 64 bits is the same integer of 64 bits. -/
theorem int64_ofNat_toNat (n : Nat) : Int64.ofNat (UInt64.ofNat n).toNat = Int64.ofNat n := by
  apply Int64.toBitVec_inj.mp
  apply BitVec.eq_of_toNat_eq
  simp

/-! ## Scalars -/

namespace Scalar

/-- The value that a payload stands for. Numbers wider than the type are cut to its bits; only a
text can be refused. -/
def ofPayload : (s : Scalar) → Payload → Except DecodeError s.Carrier
  | .double, p | .uint64, p | .fixed64, p => .ok p.number
  | .float, p | .uint32, p | .fixed32, p => .ok p.number.toUInt32
  | .int64, p | .sfixed64, p => .ok (Int64.ofNat p.number.toNat)
  | .int32, p | .enum, p | .sfixed32, p => .ok (Int32.ofNat p.number.toNat)
  | .sint64, p => .ok (Int64.ofInt (Zigzag.atIndex p.number.toNat))
  | .sint32, p => .ok (Int32.ofInt (Zigzag.atIndex p.number.toUInt32.toNat))
  | .bool, p => .ok (p.number != 0)
  | .string, p =>
    match Utf8.decode? p.content with
    | some text => .ok text
    | none => .error .invalidUtf8
  | .bytes, p => .ok p.content

/-- The payload that stands for a value. -/
def toPayload : (s : Scalar) → s.Carrier → Payload
  | .double, v | .uint64, v | .fixed64, v => .word v
  | .float, v | .uint32, v | .fixed32, v => .word v.toUInt64
  | .sfixed64, v => .word v.toUInt64
  | .sfixed32, v => .word v.toUInt32.toUInt64
  | .int64, v | .int32, v | .enum, v => .word (UInt64.ofNat (v.toInt % UInt64.size).toNat)
  | .sint64, v | .sint32, v => .word (UInt64.ofNat (Zigzag.index v.toInt))
  | .bool, v => .word (if v then 1 else 0)
  | .string, v => .block (Utf8.encode v)
  | .bytes, v => .block v

/-- A scalar is read by framing its payload and asking what that stands for. -/
theorem read_eq (s : Scalar) : s.read = (Payload.read s.wireType).tryMap s.ofPayload := by
  cases s with
  | string =>
    rw [read, wireType, Payload.read, Reader.map_tryMap, Utf8.read, Reader.tryMap]
    refine congrArg (Reader.andThen _) ?_
    funext bytes rest
    rw [ofPayload, Payload.content_block]
    cases Utf8.decode? bytes <;> rfl
  | uint64 | bytes =>
    simp only [read, wireType, Payload.read, Reader.map_tryMap, ofPayload, Payload.number_word,
      Payload.content_block]
    exact ((Reader.tryMap_ok _ fun a => a).trans (Reader.map_id _)).symm
  | float | fixed32 | sfixed32 | sfixed64 =>
    simp only [read, wireType, Payload.read, Reader.map_tryMap, ofPayload, Reader.tryMap_ok,
      Payload.number_word, toUInt32_ofNat, int32_ofNat_toNat, int64_ofNat_toNat]
  | _ =>
    simp only [read, wireType, Payload.read, Reader.map_tryMap, ofPayload, Reader.tryMap_ok,
      Payload.number_word]

/-- A value takes at least one byte, whatever its type. -/
theorem read_shortens (s : Scalar) : s.read.Shortens := by
  rw [read_eq]
  exact (Payload.read_shortens _).tryMap _

/-- A value is read from its own bytes. -/
theorem read_looksAtFront (s : Scalar) : s.read.LooksAtFront := by
  rw [read_eq]
  exact (Payload.read_looksAtFront _).tryMap _

/-- A value is refused whatever stands behind it, if the input does not end too soon. -/
theorem read_refusesAtFront (s : Scalar) : s.read.RefusesAtFront := by
  rw [read_eq]
  exact (Payload.read_refusesAtFront _).tryMap (Payload.read_looksAtFront _) _

/-- A scalar is written as the payload that stands for it. -/
theorem encode_eq (s : Scalar) (v : s.Carrier) :
    s.encode v = (s.toPayload v).encode s.wireType := by
  cases s with
  | int64 | int32 | enum =>
    rw [encode, encodeSigned, toPayload, wireType, Payload.encode, Payload.number_word,
      UInt64.toNat_ofNat_of_lt' (toNat_emod_lt v.toInt)]
  | sint64 =>
    rw [encode, toPayload, wireType, Payload.encode, Payload.number_word,
      UInt64.toNat_ofNat_of_lt' (index_toInt64_lt v)]
  | sint32 =>
    have hlt := Nat.lt_trans (index_toInt32_lt v) (by decide : UInt32.size < UInt64.size)
    rw [encode, toPayload, wireType, Payload.encode, Payload.number_word,
      UInt64.toNat_ofNat_of_lt' hlt]
  | bool => cases v <;> (rw [encode, toPayload, wireType, Payload.encode, Varint.encode]; rfl)
  | _ => rfl

/-- The payload of a value stands for it. -/
theorem ofPayload_toPayload (s : Scalar) (v : s.Carrier) : s.ofPayload (s.toPayload v) = .ok v := by
  cases s with
  | int64 =>
    rw [toPayload, ofPayload, Payload.number_word, int64_ofNat_toNat, int64_ofNat_toInt]
  | int32 | enum =>
    rw [toPayload, ofPayload, Payload.number_word, int32_ofNat_toNat, int32_ofNat_toInt]
  | sint64 =>
    rw [toPayload, ofPayload, Payload.number_word, UInt64.toNat_ofNat_of_lt' (index_toInt64_lt v),
      Zigzag.atIndex_index, Int64.ofInt_toInt]
  | sint32 =>
    rw [toPayload, ofPayload, Payload.number_word, toUInt32_ofNat,
      UInt32.toNat_ofNat_of_lt' (index_toInt32_lt v), Zigzag.atIndex_index, Int32.ofInt_toInt]
  | sfixed64 => exact congrArg Except.ok (Int64.toBitVec_inj.mp (by simp [toPayload]))
  | sfixed32 => exact congrArg Except.ok (Int32.toBitVec_inj.mp (by simp [toPayload]))
  | float | uint32 | fixed32 =>
    rw [toPayload, ofPayload, Payload.number_word, UInt32.toUInt32_toUInt64]
  | string => rw [toPayload, ofPayload, Payload.content_block, Utf8.decode?_encode]
  | bool => cases v <;> rfl
  | _ => rfl

/-- Only texts are refused, and no texts stand in packed blocks. -/
theorem exists_ofPayload {s : Scalar} (packable : s.wireType.packable) (p : Payload) :
    ∃ v, s.ofPayload p = .ok v := by
  cases s with
  | string => exact absurd packable (by decide)
  | _ => exact ⟨_, rfl⟩

/-- The block of a value is no longer than its bytes. -/
theorem length_content_le (s : Scalar) (v : s.Carrier) :
    (s.toPayload v).content.length ≤ ((s.toPayload v).encode s.wireType).length := by
  cases s with
  | string | bytes => exact Delimited.length_le_encode _
  | _ => exact Nat.zero_le _

/-- The payload of a value has room in its framing if its length has. -/
theorem toPayload_fits {s : Scalar} {v : s.Carrier}
    (h : (s.toPayload v).content.length < UInt64.size) : (s.toPayload v).Fits s.wireType := by
  cases s with
  | float | fixed32 => exact UInt32.toNat_lt v
  | sfixed32 => exact UInt32.toNat_lt v.toUInt32
  | string | bytes => exact h
  | _ => trivial

/-- The payload of a number always has room in its framing. -/
theorem toPayload_fits_of_packable {s : Scalar} (packable : s.wireType.packable) (v : s.Carrier) :
    (s.toPayload v).Fits s.wireType := by
  have hcontent : (s.toPayload v).content = [] := by
    cases s with
    | string | bytes => exact absurd packable (by decide)
    | _ => rfl
  refine toPayload_fits ?_
  rw [hcontent]
  decide

end Scalar

end Wiregen.Wire
