import Wiregen.Proofs.Wire.Position

/-!
# Numbers in a wider or a narrower type

A number of 32 bits is written as the same number of 64 bits is, and a number of 64 bits that is
read as one of 32 loses its upper half (`widening`). For signed numbers that are written by their
index this needs that the index does not depend on the width. It does not, though it can be had by
shifts within either width (`Zigzag.toNat_folded`): the bits go one place up, and the sign, repeated
over all places, turns them over.
-/

namespace Wiregen.Wire

/-! ## The index by shifts -/

namespace Zigzag

section
variable {w : Nat} {x : BitVec (w + 1)}

/-- The sign of a number that has one, repeated over all places. -/
theorem sshiftRight_of_msb_true (h : x.msb = true) : x.sshiftRight w = BitVec.allOnes (w + 1) := by
  have hnot : (~~~x).toNat < 2 ^ w := by
    have hmsb : (~~~x).msb = false := by simp [BitVec.msb_not, h]
    simpa [BitVec.msb_eq_decide] using hmsb
  have hzero : (~~~x) >>> w = 0#(w + 1) := by
    apply BitVec.eq_of_toNat_eq
    rw [BitVec.toNat_ushiftRight, Nat.shiftRight_eq_div_pow, Nat.div_eq_of_lt hnot]
    rfl
  rw [BitVec.sshiftRight_eq_of_msb_true h, hzero, BitVec.not_zero]

/-- Shifted to the right by all its bits but the sign, a number without the sign bit is zero. -/
theorem sshiftRight_of_msb_false (h : x.msb = false) : x.sshiftRight w = 0#(w + 1) := by
  have hlt : x.toNat < 2 ^ w := by simpa [BitVec.msb_eq_decide] using h
  apply BitVec.eq_of_toNat_eq
  rw [BitVec.sshiftRight_eq_of_msb_false h, BitVec.toNat_ushiftRight, Nat.shiftRight_eq_div_pow,
    Nat.div_eq_of_lt hlt]
  rfl

end

/-- The bits of a number one place up, turned over by its sign, are its index. -/
theorem toNat_folded {w : Nat} (x : BitVec (w + 1)) :
    (x <<< 1 ^^^ x.sshiftRight w).toNat = index x.toInt := by
  have hlt := x.isLt
  have hup : (x <<< 1).toNat = 2 * x.toNat % 2 ^ (w + 1) := by
    rw [BitVec.toNat_shiftLeft, Nat.shiftLeft_eq, Nat.pow_one, Nat.mul_comm]
  cases hmsb : x.msb with
  | false =>
    have hroom : x.toNat < 2 ^ w := by simpa [BitVec.msb_eq_decide] using hmsb
    rw [sshiftRight_of_msb_false hmsb, BitVec.xor_zero, hup, BitVec.toInt_eq_toNat_of_msb hmsb,
      index, if_pos (Int.natCast_nonneg _), Int.toNat_natCast]
    exact Nat.mod_eq_of_lt (by omega)
  | true =>
    have hroom : 2 ^ w ≤ x.toNat := by simpa [BitVec.msb_eq_decide] using hmsb
    have hneg : x.toInt = x.toNat - (2 ^ (w + 1) : Nat) := by
      rw [BitVec.toInt_eq_msb_cond, if_pos hmsb]
    have hmod : 2 * x.toNat % 2 ^ (w + 1) = 2 * x.toNat - 2 ^ (w + 1) := by
      rw [Nat.mod_eq_sub_mod (by omega), Nat.mod_eq_of_lt (by omega)]
    rw [sshiftRight_of_msb_true hmsb, BitVec.xor_allOnes, BitVec.toNat_not, hup, hmod, hneg, index,
      if_neg (by omega)]
    omega

/-- The word by which a signed number of 32 bits is written. -/
def folded32 (x : Int32) : UInt32 := (x <<< 1 ^^^ x >>> 31).toUInt32

/-- The word by which a signed number of 64 bits is written. -/
def folded64 (z : Int64) : UInt64 := (z <<< 1 ^^^ z >>> 63).toUInt64

/-- The zigzag form of 32 bits, by shifts, is the index in the order of integers. -/
theorem toNat_folded32 (x : Int32) : (folded32 x).toNat = index x.toInt := by
  have hbits : (folded32 x).toBitVec = x.toBitVec <<< 1 ^^^ x.toBitVec.sshiftRight 31 := by
    simp [folded32]
  exact (congrArg BitVec.toNat hbits).trans (toNat_folded x.toBitVec)

/-- The zigzag form of 64 bits, by shifts, is the index in the order of integers. -/
theorem toNat_folded64 (z : Int64) : (folded64 z).toNat = index z.toInt := by
  have hbits : (folded64 z).toBitVec = z.toBitVec <<< 1 ^^^ z.toBitVec.sshiftRight 63 := by
    simp [folded64]
  exact (congrArg BitVec.toNat hbits).trans (toNat_folded z.toBitVec)

end Zigzag

/-! ## Words that are written -/

namespace Scalar

/-- The two's complement of an integer is read as a word. -/
theorem read_encodeSigned (z : Int) (rest : Bytes) :
    Varint.read (encodeSigned z ++ rest) = .ok (UInt64.ofNat (z % UInt64.size).toNat, rest) :=
  Varint.read_encode (toNat_emod_lt z) rest

/-- A truth value is written as the number 0 or 1. -/
theorem encode_bool (b : Bool) : encode .bool b = Varint.encode b.toUInt64.toNat := by
  cases b <;> (rw [encode, Varint.encode]; rfl)

end Scalar

/-- A number of 32 bits is written, in each of the types that have such numbers, as the same number
is in the type of 64 bits, and a truth value as the number 0 or 1. Where numbers are written by
their index, shifts in either width give it. Anywhere in a buffer, a number of 64 bits is read by
the types of 32 bits as its lower half, with a sign if the type has one, and as a truth value by
whether it is zero. -/
theorem widening :
    (∀ x : Int32,
      Scalar.encode .enum x = Scalar.encode .int32 x ∧
      Scalar.encode .int64 x.toInt64 = Scalar.encode .int32 x ∧
      Scalar.encode .sint64 x.toInt64 = Scalar.encode .sint32 x ∧
      Scalar.encode .sint32 x = Varint.encode (Zigzag.folded32 x).toNat) ∧
    (∀ z : Int64, Scalar.encode .sint64 z = Varint.encode (Zigzag.folded64 z).toNat) ∧
    (∀ y : UInt32, Scalar.encode .uint64 y.toUInt64 = Scalar.encode .uint32 y) ∧
    (∀ b : Bool, Scalar.encode .bool b = Varint.encode b.toUInt64.toNat) ∧
    ∀ before behind : Bytes,
      (∀ z : Int64, ∃ x : Int32, x.toInt = z.toInt.bmod (2 ^ 32) ∧
        let buffer := before ++ Scalar.encode .int64 z ++ behind
        let pos := before.length + (Scalar.encode .int64 z).length
        (Scalar.read .int32).readAt buffer before.length = .ok (x, pos) ∧
        (Scalar.read .enum).readAt buffer before.length = .ok (x, pos)) ∧
      ∀ w : UInt64,
        let buffer := before ++ Scalar.encode .uint64 w ++ behind
        let pos := before.length + (Scalar.encode .uint64 w).length
        (∃ y : UInt32, y.toNat = w.toNat % 2 ^ 32 ∧
          (Scalar.read .uint32).readAt buffer before.length = .ok (y, pos)) ∧
        (Scalar.read .bool).readAt buffer before.length = .ok (w != 0, pos) := by
  refine ⟨fun x => ⟨rfl, ?_, ?_, ?_⟩, fun z => ?_, fun y => ?_, Scalar.encode_bool,
    fun before behind => ⟨fun z => ?_, fun w => ⟨⟨w.toUInt32, by simp, ?_⟩, ?_⟩⟩⟩
  · rw [Scalar.encode, Scalar.encode, Int32.toInt_toInt64]
  · rw [Scalar.encode, Scalar.encode, Int32.toInt_toInt64]
  · rw [Scalar.encode, Zigzag.toNat_folded32]
  · rw [Scalar.encode, Zigzag.toNat_folded64]
  · rw [Scalar.encode, Scalar.encode, UInt32.toNat_toUInt64]
  · have hread := Reader.map_of_ok (f := fun v => Int32.ofNat v.toNat)
      (Scalar.read_encodeSigned z.toInt behind)
    rw [int32_ofNat_toNat] at hread
    exact ⟨_, toInt_int32_ofNat z.toInt, Reader.readAt_append hread, Reader.readAt_append hread⟩
  · have hread := Reader.map_of_ok (f := UInt64.toUInt32) (Varint.read_encode_word w behind)
    exact Reader.readAt_append hread
  · have hread := Reader.map_of_ok (f := (· != 0)) (Varint.read_encode_word w behind)
    exact Reader.readAt_append hread

end Wiregen.Wire
