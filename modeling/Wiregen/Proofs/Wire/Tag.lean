import Mathlib.Algebra.Group.Nat.Defs
import Wiregen.Wire.Key

/-!
# Keys as numbers

A key is eight times the field number plus the number of the wire type, as long as the field number
has at most 29 bits (`tag_toNat`), and then both are read off it again (`splitTag_tag`). The wire
type alone is read off any key (`wireBits_tag`), so keys of different wire types are different
whatever their field numbers are.
-/

namespace Wiregen.Wire

namespace WireType

/-- The number of a wire type has three bits. -/
theorem number_lt (w : WireType) : w.number.toNat < 8 := by cases w <;> decide

/-- The number of a wire type is that of no other one. -/
@[simp] theorem ofNumber?_number (w : WireType) : ofNumber? w.number.toNat = some w := by
  cases w <;> rfl

/-- Wire types have different numbers. -/
theorem number_injective {w w' : WireType} (h : w.number = w'.number) : w = w' := by
  have := congrArg (fun n => ofNumber? n.toNat) h
  simpa using this

@[simp] theorem packable_iff {w : WireType} : w.packable ↔ w ≠ .lengthDelimited := by
  cases w <;> decide

end WireType

/-! ## Keys -/

/-- Every key is a multiple of eight, of which bits may be lost, and the number of its wire type. -/
theorem tag_toNat_mod (number : UInt32) (w : WireType) :
    (tag number w).toNat = number.toNat * 8 % 2 ^ 32 + w.number.toNat := by
  have hw := w.number_lt
  have hor := Nat.two_pow_add_eq_or_of_lt (i := 3) (b := w.number.toNat) (by omega)
    (number.toNat % 2 ^ 29)
  have hshift : (number <<< 3).toNat = 2 ^ 3 * (number.toNat % 2 ^ 29) := by
    rw [UInt32.toNat_shiftLeft, Nat.shiftLeft_eq]
    simp only [UInt32.toNat_ofNat, Nat.reducePow, Nat.reduceMod]
    omega
  rw [tag, UInt32.toNat_or, hshift, ← hor]
  omega

/-- A key has room for a field number of 29 bits: nothing of it is lost. -/
theorem tag_toNat {number : UInt32} (h : number.toNat < 2 ^ 29) (w : WireType) :
    (tag number w).toNat = number.toNat * 8 + w.number.toNat := by
  rw [tag_toNat_mod, Nat.mod_eq_of_lt (by omega)]

/-- The number and the wire type of a key are those it was made of. -/
theorem splitTag_tag {number : UInt32} (h : number.toNat < 2 ^ 29) (w : WireType) :
    splitTag (tag number w) = (number, some w) := by
  have hw := w.number_lt
  have htag := tag_toNat h w
  have hnumber : tag number w >>> 3 = number := by
    apply UInt32.toNat_inj.mp
    rw [UInt32.toNat_shiftRight, htag, Nat.shiftRight_eq_div_pow]
    simp only [UInt32.toNat_ofNat, Nat.reducePow, Nat.reduceMod]
    omega
  have hwire : (tag number w &&& 7).toNat = w.number.toNat := by
    have hand := Nat.and_two_pow_sub_one_eq_mod (number.toNat * 8 + w.number.toNat) 3
    rw [UInt32.toNat_and, htag]
    simp only [UInt32.toNat_ofNat, Nat.reducePow, Nat.reduceSub, Nat.reduceMod] at hand ⊢
    omega
  rw [splitTag, hnumber, hwire, WireType.ofNumber?_number]

/-- The upper bits of a key are its field number. -/
theorem shiftRight_tag {number : UInt32} (h : number.toNat < 2 ^ 29) (w : WireType) :
    (tag number w).toUInt64 >>> 3 = number.toUInt64 := by
  have hw := w.number_lt
  have htag := tag_toNat h w
  apply UInt64.toNat_inj.mp
  rw [UInt64.toNat_shiftRight, UInt32.toNat_toUInt64, htag, Nat.shiftRight_eq_div_pow]
  simp only [UInt64.toNat_ofNat, UInt32.toNat_toUInt64, Nat.reducePow, Nat.reduceMod]
  omega

/-- The low bits of a key are the number of its wire type, whatever its field number is. -/
theorem wireBits_tag (number : UInt32) (w : WireType) :
    wireBits (tag number w).toUInt64 = w.number.toUInt64 := by
  have hw := w.number_lt
  apply UInt64.toNat_inj.mp
  have hand := Nat.and_two_pow_sub_one_eq_mod (tag number w).toNat 3
  have htag := tag_toNat_mod number w
  rw [wireBits, UInt64.toNat_and, UInt32.toNat_toUInt64, UInt32.toNat_toUInt64]
  simp only [UInt64.toNat_ofNat, Nat.reducePow, Nat.reduceSub, Nat.reduceMod] at hand htag ⊢
  omega

/-- Keys tell wire types apart. -/
theorem wire_eq_of_tag_eq {n n' : UInt32} {w w' : WireType} (h : tag n w = tag n' w') :
    w = w' := by
  apply WireType.number_injective
  have hbits := congrArg (fun key => wireBits key.toUInt64) h
  simp only [wireBits_tag] at hbits
  exact UInt32.toUInt64_inj.mp hbits

/-- The keys of a single value and of a packed block differ. -/
theorem packed_key_ne {number : UInt32} {w : WireType} (h : w.packable) :
    (tag number .lengthDelimited).toUInt64 ≠ (tag number w).toUInt64 := by
  intro heq
  exact WireType.packable_iff.mp h (wire_eq_of_tag_eq (UInt32.toUInt64_inj.mp heq)).symm

/-- Keys tell field numbers of 29 bits apart. -/
theorem tag_injective {n n' : UInt32} {w w' : WireType} (hn : n.toNat < 2 ^ 29)
    (hn' : n'.toNat < 2 ^ 29) (h : tag n w = tag n' w') : n = n' ∧ w = w' := by
  have hsplit := congrArg splitTag h
  rw [splitTag_tag hn, splitTag_tag hn'] at hsplit
  simpa using hsplit

end Wiregen.Wire
