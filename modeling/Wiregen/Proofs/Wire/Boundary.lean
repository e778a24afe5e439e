import Wiregen.Proofs.Wire.Split

/-!
# Inputs cut off

An input that is whole items can be cut behind any of them (`Boundary`), and what is left is whole
items again: the first of those that were there. Cut anywhere else, it ends among the bytes of an
item, and reading that item is an overflow, whatever it is (`split_take`).
-/

namespace Wiregen.Wire

variable {α : Type}

/-- The places between the items of an input, its two ends included: how many bytes stand in front
of each. -/
inductive Boundary (r : Reader α) : Bytes → Nat → Prop where
  | start (input : Bytes) : Boundary r input 0
  | behind {input rest : Bytes} {a : α} {k : Nat} (item : r input = .ok (a, rest))
      (next : Boundary r rest k) : Boundary r input (input.length - rest.length + k)

variable {r : Reader α} {input front rest : Bytes} {a : α} {k : Nat}

/-- The boundaries of an input are its start and those behind its first item. -/
theorem boundary_append_iff (h : r (front ++ rest) = .ok (a, rest)) :
    Boundary r (front ++ rest) k ↔ k = 0 ∨ ∃ j, k = front.length + j ∧ Boundary r rest j := by
  have hlen : (front ++ rest).length - rest.length = front.length := by simp
  constructor
  · intro hk
    cases hk with
    | start => exact .inl rfl
    | @behind _ rest' _ j item next =>
      obtain rfl : rest' = rest := by
        rw [h] at item
        cases item
        rfl
      exact .inr ⟨j, by rw [hlen], next⟩
  · rintro (rfl | ⟨j, rfl, hj⟩)
    · exact .start _
    · rw [← hlen]
      exact .behind h hj

/-- There is no boundary among the bytes of the first item. -/
theorem not_boundary_of_lt (h : r (front ++ rest) = .ok (a, rest)) (hpos : 0 < k)
    (hk : k < front.length) : ¬ Boundary r (front ++ rest) k := by
  rw [boundary_append_iff h]
  rintro (rfl | ⟨j, rfl, -⟩) <;> omega

/-- The boundaries behind the first item are those of what it leaves. -/
theorem boundary_add_iff (h : r (front ++ rest) = .ok (a, rest)) (hpos : 0 < front.length) :
    Boundary r (front ++ rest) (front.length + k) ↔ Boundary r rest k := by
  rw [boundary_append_iff h]
  constructor
  · rintro (hzero | ⟨j, hj, hb⟩)
    · omega
    · rwa [Nat.add_left_cancel hj]
  · exact fun hb => .inr ⟨k, rfl, hb⟩

/-- What a read takes cannot be read with bytes cut off. -/
theorem Reader.Takes.read_take (h : r.Takes front a) (hk : k < front.length) :
    r (front.take k) = .error .bufferOverflow := by
  refine h.cut (List.take_prefix k front) fun heq => ?_
  have hlen := congrArg List.length heq
  rw [List.length_take] at hlen
  omega

/-- Of whole items that are cut off the first are left. Nothing is behind these if the cut is at a
boundary, and what is behind them is an overflow if it is not. -/
theorem split_take {shortens : r.Shortens} (looks : r.LooksAtFront)
    (whole : (split r shortens input).broken = none) (hk : k ≤ input.length) :
    (split r shortens (input.take k)).items <+: (split r shortens input).items ∧
      (Boundary r input k → (split r shortens (input.take k)).broken = none) ∧
      (¬ Boundary r input k →
        (split r shortens (input.take k)).broken = some .bufferOverflow) := by
  induction hn : input.length using Nat.strongRecOn generalizing input k with
  | ind n ih =>
    subst hn
    by_cases hzero : k = 0
    · subst hzero
      rw [List.take_zero, split_nil]
      exact ⟨List.nil_prefix, fun _ => rfl, fun hcut => absurd (.start input) hcut⟩
    have hne : input ≠ [] := by
      rintro rfl
      exact hzero (Nat.le_zero.mp hk)
    cases hr : r input with
    | error e =>
      rw [split_of_error hne hr] at whole
      cases whole
    | ok p =>
      obtain ⟨a, rest⟩ := p
      have hshort := shortens hr
      rw [split_of_ok hr] at whole ⊢
      obtain ⟨front, rfl, htakes⟩ := looks hr
      rw [List.length_append] at hk hshort
      -- The cut is among the bytes of the first item or behind them.
      by_cases hinside : k < front.length
      · have hcut : r ((front ++ rest).take k) = .error .bufferOverflow := by
          rw [List.take_append_of_le_length (Nat.le_of_lt hinside)]
          exact htakes.read_take hinside
        have hnonempty : (front ++ rest).take k ≠ [] := by
          simp [hzero, hne]
        have hnone := not_boundary_of_lt hr (Nat.pos_of_ne_zero hzero) hinside
        rw [split_of_error hnonempty hcut]
        exact ⟨List.nil_prefix, fun hb => absurd hb hnone, fun _ => rfl⟩
      · obtain ⟨j, rfl⟩ := Nat.exists_eq_add_of_le (Nat.le_of_not_lt hinside)
        have hj : j ≤ rest.length := by omega
        obtain ⟨hitems, hothers⟩ := ih rest.length (by simpa using hshort) whole hj rfl
        rw [boundary_add_iff hr (by omega), List.take_length_add_append,
          split_of_ok (htakes.read (rest.take j))]
        exact ⟨(List.prefix_cons_inj a).mpr hitems, hothers⟩

end Wiregen.Wire
