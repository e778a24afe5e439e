import Mathlib.Algebra.BigOperators.Intervals
import Mathlib.Algebra.BigOperators.Ring.Finset
import Mathlib.Tactic.Ring
import Wiregen.Proofs.Wire.Reader

/-!
# Varints in closed form

How a varint is read depends on the bytes in a row from its first on that say that the number goes
on (`leading`). With too many of them it is invalid, with the input at its end behind them it is cut
off, and otherwise they and the byte behind them hold its digits to the base 128 (`groups_eq`).
-/

namespace Wiregen.Wire.Varint

open Finset (range)

/-- How many bytes in a row at the front of the input say by their high bit that a number goes on
behind them. -/
def leading (input : Bytes) : Nat := (input.takeWhile (128 ≤ ·)).length

/-- The number whose digits to the base 128, lowest first, are the low seven bits of the first `n`
bytes of the input. -/
def digits (n : Nat) (input : Bytes) : Nat :=
  ∑ i ∈ range n, (input.getD i 0).toNat % 128 * 2 ^ (7 * i)

section
variable {b : UInt8} {input : Bytes}

/-- No byte of the front has its high bit set where the first does not. -/
theorem leading_of_lt (h : b < 128) : leading (b :: input) = 0 := by
  have hnot : ¬ 128 ≤ b := UInt8.not_le.mpr h
  simp [leading, hnot]

/-- A byte with its high bit set is one more of those at the front. -/
theorem leading_of_not_lt (h : ¬ b < 128) : leading (b :: input) = leading input + 1 := by
  have hle : 128 ≤ b := UInt8.not_lt.mp h
  simp [leading, hle]

/-- The digits behind the first count 128 times as much as they do on their own. -/
theorem digits_succ_cons (n : Nat) :
    digits (n + 1) (b :: input) = b.toNat % 128 + 128 * digits n input := by
  rw [digits, Finset.sum_range_succ', digits, Finset.mul_sum, Nat.add_comm]
  congr 1
  · simp
  · refine Finset.sum_congr rfl fun i _ => ?_
    rw [List.getD_cons_succ]
    ring

end

/-- What is read within a budget of bytes: a number that is too long for it, one that is cut off, or
the digits up to the first byte that says that the number ends there. -/
theorem groups_eq (budget : Nat) (input : Bytes) :
    groups budget input =
      if budget ≤ leading input then .error .invalidVarint
      else if input.length ≤ leading input then .error .bufferOverflow
      else .ok (digits (leading input + 1) input, input.drop (leading input + 1)) := by
  induction budget generalizing input with
  | zero => rfl
  | succ budget ih =>
    cases input with
    | nil => rfl
    | cons b rest =>
      by_cases hb : b < 128
      · have hdigit : b.toNat % 128 = b.toNat := Nat.mod_eq_of_lt (UInt8.lt_iff_toNat_lt.mp hb)
        have hone : digits 1 (b :: rest) = b.toNat := by
          rw [digits_succ_cons, hdigit]
          rfl
        rw [groups, if_pos hb, leading_of_lt hb]
        simp [hone]
      · have hdigit : b.toNat - 128 = b.toNat % 128 := by
          have hlow : 128 ≤ b.toNat := UInt8.le_iff_toNat_le.mp (UInt8.not_lt.mp hb)
          have hhigh := b.toNat_lt
          omega
        rw [groups, if_neg hb, ih, leading_of_not_lt hb]
        simp only [Nat.add_le_add_iff_right, List.length_cons, List.drop_succ_cons,
          digits_succ_cons, hdigit]
        split_ifs <;> rfl

/-- A varint at a position of a buffer, where a number of bytes in a row have the high bit set. If
they are ten or more, it is invalid, even if the buffer ends behind the tenth; if they are fewer and
the buffer ends behind them, it is an overflow; and otherwise they and the byte behind them are its
digits to the base 128, lowest first, of which it keeps 64 bits, and it ends there. -/
theorem readAt_digits (data : Bytes) (pos : Nat) :
    read.readAt data pos =
      if 10 ≤ leading (data.drop pos) then .error .invalidVarint
      else if data.length ≤ pos + leading (data.drop pos) then .error .bufferOverflow
      else .ok
        (UInt64.ofNat ((∑ i ∈ range (leading (data.drop pos) + 1),
          (data.getD (pos + i) 0).toNat % 128 * 2 ^ (7 * i)) % 2 ^ 64),
          pos + leading (data.drop pos) + 1) := by
  have hdigits : ∀ n, digits n (data.drop pos) =
      ∑ i ∈ range n, (data.getD (pos + i) 0).toNat % 128 * 2 ^ (7 * i) := by
    simp [digits]
  have hread := groups_eq maxBytes (data.drop pos)
  generalize leading (data.drop pos) = n at hread ⊢
  have hend : (data.drop pos).length ≤ n ↔ data.length ≤ pos + n := by
    rw [List.length_drop]
    omega
  simp only [hend, hdigits, maxBytes] at hread
  rw [Reader.readAt, read, Reader.map, maxBytes, hread]
  by_cases hlong : 10 ≤ n
  · rw [if_pos hlong, if_pos hlong]
    rfl
  · by_cases hcut : data.length ≤ pos + n
    · rw [if_neg hlong, if_neg hlong, if_pos hcut, if_pos hcut]
      rfl
    · have hpos : data.length - ((data.drop pos).drop (n + 1)).length = pos + n + 1 := by
        simp only [List.length_drop]
        omega
      rw [if_neg hlong, if_neg hlong, if_neg hcut, if_neg hcut, UInt64.ofNat_mod_size]
      simp only [Except.map, hpos]

end Wiregen.Wire.Varint
