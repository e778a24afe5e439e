import Wiregen.Proofs.Wire.Position

/-!
# Slices

Positions and lengths are words of 64 bits, and two of them have a sum only as far as that does not
wrap around (`sum?_eq_some`). So a slice is there exactly if its end, reckoned without a bound, is
not past the end of the buffer (`slices_within`), whatever the length is that a block in the buffer
claims to have.
-/

namespace Wiregen.Wire

/-! ## Sums of words -/

section
variable {a b c : UInt64}

/-- A sum of words is less than what was added to exactly if it wraps around. -/
theorem add_lt_iff : a + b < a ↔ UInt64.size ≤ a.toNat + b.toNat := by
  have hsize : UInt64.size = 2 ^ 64 := rfl
  have ha := a.toNat_lt
  have hb := b.toNat_lt
  rw [UInt64.lt_iff_toNat_lt, UInt64.toNat_add]
  omega

/-- Two words have a sum if it is a word, and then it is their sum as numbers. -/
theorem sum?_eq_some : sum? a b = some c ↔ a.toNat + b.toNat = c.toNat := by
  rw [sum?]
  split
  next hwrap =>
    have hc : c.toNat < UInt64.size := c.toNat_lt
    have hsum := add_lt_iff.mp hwrap
    simp only [reduceCtorEq, false_iff]
    omega
  next hwrap =>
    have hadd : (a + b).toNat = a.toNat + b.toNat :=
      Nat.mod_eq_of_lt (Nat.not_le.mp fun h => hwrap (add_lt_iff.mpr h))
    rw [Option.some.injEq, ← UInt64.toNat_inj, hadd]

end

/-! ## Slices and bounds -/

section
variable {data : Bytes} {pos n : UInt64}

/-- A slice whose end is in the buffer is there. -/
theorem sliceAt_of_le (fits : data.length < UInt64.size)
    (h : pos.toNat + n.toNat ≤ data.length) :
    ∃ last : UInt64, last.toNat = pos.toNat + n.toNat ∧
      sliceAt data pos n = .ok ((data.drop pos.toNat).take n.toNat, last) := by
  obtain ⟨last, hlast⟩ : ∃ last : UInt64, last.toNat = pos.toNat + n.toNat :=
    ⟨_, UInt64.toNat_ofNat_of_lt' (Nat.lt_of_le_of_lt h fits)⟩
  have hinside : pos ≤ last ∧ last.toNat ≤ data.length :=
    ⟨UInt64.le_iff_toNat_le.mpr (by omega), by omega⟩
  have hbytes : between? data pos last = some ((data.drop pos.toNat).take n.toNat) := by
    rw [between?, if_pos hinside, List.drop_take, hlast, Nat.add_sub_cancel_left]
  refine ⟨last, hlast, ?_⟩
  simp only [sliceAt, sum?_eq_some.mpr hlast.symm, hbytes]

/-- A slice whose end is past that of the buffer is not there, whether that end is a word or not. -/
theorem sliceAt_of_lt (h : data.length < pos.toNat + n.toNat) :
    sliceAt data pos n = .error .bufferOverflow := by
  rw [sliceAt]
  cases hsum : sum? pos n with
  | none => rfl
  | some last =>
    have hpast : ¬ (pos ≤ last ∧ last.toNat ≤ data.length) := by
      rw [← sum?_eq_some.mp hsum]
      omega
    simp only [between?, if_neg hpast]

end

section
variable {data : Bytes} {pos : Nat}

/-- Bytes are taken at a position if the buffer has as many from there on. -/
theorem readAt_take (hpos : pos ≤ data.length) (n : Nat) :
    (take n).readAt data pos =
      if pos + n ≤ data.length then .ok ((data.drop pos).take n, pos + n)
      else .error .bufferOverflow := by
  have hlength : n ≤ (data.drop pos).length ↔ pos + n ≤ data.length := by
    rw [List.length_drop]
    omega
  simp only [Reader.readAt, take, hlength]
  split
  next h =>
    have hbehind : data.length - ((data.drop pos).drop n).length = pos + n := by
      simp only [List.length_drop]
      omega
    simp only [Except.map, hbehind]
  next => rfl

/-- What is taken at a position is the slice there. -/
theorem sliceAt_eq_readAt (fits : data.length < UInt64.size) (hpos : pos ≤ data.length)
    (n : UInt64) :
    (sliceAt data (UInt64.ofNat pos) n).map (fun p => (p.1, p.2.toNat)) =
      (take n.toNat).readAt data pos := by
  have hword : (UInt64.ofNat pos).toNat = pos :=
    UInt64.toNat_ofNat_of_lt' (Nat.lt_of_le_of_lt hpos fits)
  rw [readAt_take hpos]
  split
  next h =>
    obtain ⟨last, hlast, hslice⟩ := sliceAt_of_le fits (hword.symm ▸ h)
    simp only [hslice, Except.map, hlast, hword]
  next h =>
    rw [sliceAt_of_lt (hword.symm ▸ Nat.not_le.mp h)]
    rfl

end

/-- A slice is there exactly if its end, reckoned without a bound, is not past that of the buffer,
and it is the bytes up to there; positions beyond the end and sums that wrap around are overflows
like any other. The same goes for a block: behind the length that it claims to have, which may be
any word, the slice of as many bytes is its content. (No buffer is longer than a position can say.)
-/
theorem slices_within {data : Bytes} (fits : data.length < UInt64.size) :
    (∀ pos n : UInt64,
      (pos.toNat + n.toNat ≤ data.length → ∃ last : UInt64, last.toNat = pos.toNat + n.toNat ∧
        sliceAt data pos n = .ok ((data.drop pos.toNat).take n.toNat, last)) ∧
      (data.length < pos.toNat + n.toNat → sliceAt data pos n = .error .bufferOverflow)) ∧
    ∀ (pos start : Nat) (n : UInt64), Varint.read.readAt data pos = .ok (n, start) →
      (start + n.toNat ≤ data.length → Delimited.read.readAt data pos =
        .ok ((data.drop start).take n.toNat, start + n.toNat)) ∧
      (data.length < start + n.toNat →
        Delimited.read.readAt data pos = .error .bufferOverflow) ∧
      Delimited.read.readAt data pos =
        (sliceAt data (UInt64.ofNat start) n).map fun p => (p.1, p.2.toNat) := by
  refine ⟨fun pos n => ⟨sliceAt_of_le fits, sliceAt_of_lt⟩, fun pos start n hlength => ?_⟩
  have hstart : start ≤ data.length := (Varint.read_shortens.lt_of_readAt hlength).2
  have hblock : Delimited.read.readAt data pos = (take n.toNat).readAt data start :=
    Varint.read_looksAtFront.readAt_andThen hlength
  refine ⟨fun h => ?_, fun h => ?_, hblock.trans (sliceAt_eq_readAt fits hstart n).symm⟩
  · rw [hblock, readAt_take hstart, if_pos h]
  · rw [hblock, readAt_take hstart, if_neg (Nat.not_le.mpr h)]

/-- A block that claims the greatest of all lengths, so that the end it would have wraps around to
before its own length; the byte behind that length is a slice. -/
theorem slices_within_greatest :
    let data : Bytes := [0xFF, 0xFF, 0xFF, 0xFF, 0xFF, 0xFF, 0xFF, 0xFF, 0xFF, 0x01, 0x07]
    data.length < UInt64.size ∧ Varint.read.readAt data 0 = .ok (0xFFFFFFFFFFFFFFFF, 10) ∧
      (10 : UInt64) + 0xFFFFFFFFFFFFFFFF = 9 ∧
      Delimited.read.readAt data 0 = .error .bufferOverflow ∧
      sliceAt data 10 0xFFFFFFFFFFFFFFFF = .error .bufferOverflow ∧
      sliceAt data 10 1 = .ok ([0x07], 11) := by
  intro data
  have fits : data.length < UInt64.size := by decide
  have hlength : Varint.read.readAt data 0 = .ok (0xFFFFFFFFFFFFFFFF, 10) := rfl
  obtain ⟨hslice, hblock⟩ := slices_within fits
  obtain ⟨last, hlast, hbyte⟩ := (hslice 10 1).1 (by decide)
  obtain rfl : last = 11 := UInt64.toNat_inj.mp hlast
  exact ⟨fits, hlength, by decide, (hblock 0 10 _ hlength).2.1 (by decide),
    (hslice 10 _).2 (by decide), hbyte⟩

end Wiregen.Wire
