import Wiregen.Proofs.Wire.Position

/-!
# The shortest varint

A number has many varints, since its digits can have zeros above them. The bytes that a reader takes
for a number are the varints of it (`Varint.Spells`), and of these `Varint.encode` writes the only
one that is no longer than it has to be (`Spells.eq_encode`). A word is no more than what is left of
a number once the bits beyond the sixty-fourth are dropped, and so its varint is no longer than any
that is read as the word (`encode_shortest`).
-/

namespace Wiregen.Wire.Varint

/-- Bytes that are a varint of a number: seven bits of it in each, lowest first, and the high bit
set in all but the last. -/
inductive Spells : Bytes → Nat → Prop where
  | last {b : UInt8} (low : b < 128) : Spells [b] b.toNat
  | next {b : UInt8} {others : Bytes} {n : Nat} (high : ¬ b < 128) (behind : Spells others n) :
      Spells (b :: others) (b.toNat - 128 + 128 * n)

/-! ## Varints of a number -/

namespace Spells

variable {bytes : Bytes} {n : Nat}

/-- Every byte but the last says that the number goes on. -/
theorem exists_last (h : Spells bytes n) :
    ∃ front last, bytes = front ++ [last] ∧ (∀ b ∈ front, 128 ≤ b) ∧ last < 128 := by
  induction h with
  | @last b low => exact ⟨[], b, rfl, by simp, low⟩
  | @next b others n high _ ih =>
    obtain ⟨front, last, rfl, hfront, hlast⟩ := ih
    refine ⟨b :: front, last, rfl, ?_, hlast⟩
    intro d hd
    rcases List.mem_cons.mp hd with rfl | hd
    · exact UInt8.not_lt.mp high
    · exact hfront d hd

/-- A varint has at least one byte. -/
theorem length_pos (h : Spells bytes n) : 0 < bytes.length := by
  cases h <;> simp

/-- A number has room in the bytes of its varint, seven bits to each. -/
theorem lt_pow (h : Spells bytes n) : n < 128 ^ bytes.length := by
  induction h with
  | last low => simpa using UInt8.lt_iff_toNat_lt.mp low
  | @next b others n _ _ ih =>
    have hb := b.toNat_lt
    rw [List.length_cons, Nat.pow_succ]
    omega

end Spells

/-! ## The varint that is written -/

/-- What is written for a number is a varint of it. -/
theorem spells_encode (n : Nat) : Spells (encode n) n := by
  induction n using Nat.strongRecOn with
  | ind n ih =>
    rw [encode]
    split
    next hn =>
      have hspells := Spells.last (low_lt hn)
      rwa [toNat_low hn] at hspells
    next hn =>
      have hspells := Spells.next (not_high_lt n) (ih (n / 128) (by omega))
      rwa [toNat_high, Nat.add_sub_cancel, Nat.mod_add_div] at hspells

/-- A number is written in no more bytes than have room for it. -/
theorem length_encode_le {k : Nat} :
    ∀ {n : Nat}, n < 128 ^ (k + 1) → (encode n).length ≤ k + 1 := by
  induction k with
  | zero =>
    intro n h
    have hn : n < 128 := by simpa using h
    rw [encode, if_pos hn]
    exact Nat.le_refl _
  | succ k ih =>
    intro n h
    rw [encode]
    split
    next => simp
    next =>
      rw [Nat.pow_succ] at h
      have hdiv : n / 128 < 128 ^ (k + 1) := by omega
      have := ih hdiv
      simp only [List.length_cons]
      omega

/-- Nothing is written in fewer bytes than a varint that has room for more. -/
theorem Spells.length_encode_le {bytes : Bytes} {n m : Nat} (h : Spells bytes n) (hm : m ≤ n) :
    (encode m).length ≤ bytes.length := by
  obtain ⟨k, hk⟩ := Nat.exists_eq_add_one.mpr h.length_pos
  have hroom := Nat.lt_of_le_of_lt hm h.lt_pow
  rw [hk] at hroom ⊢
  exact Varint.length_encode_le hroom

/-- A varint of a number that is as short as can be is the one that is written. -/
theorem Spells.eq_encode {bytes : Bytes} {n : Nat} (h : Spells bytes n) :
    bytes.length = (encode n).length → bytes = encode n := by
  induction h with
  | @last b low =>
    intro _
    have hlow : b.toNat < 128 := UInt8.lt_iff_toNat_lt.mp low
    rw [encode, if_pos hlow]
    simp
  | @next b others n high behind ih =>
    intro hlen
    have hb : 128 ≤ b.toNat := UInt8.le_iff_toNat_le.mp (UInt8.not_lt.mp high)
    have hlt := b.toNat_lt
    have hpos := behind.length_pos
    rw [encode] at hlen ⊢
    split at hlen
    next hsmall =>
      -- One byte is enough for the number, and there is another behind this one.
      simp only [List.length_cons, List.length_nil] at hlen
      omega
    next hlarge =>
      have hlow : (b.toNat - 128 + 128 * n) % 128 + 128 = b.toNat := by omega
      have hdiv : (b.toNat - 128 + 128 * n) / 128 = n := by omega
      rw [hdiv] at hlen ⊢
      rw [if_neg hlarge, hlow, ← ih (by simpa using hlen)]
      simp

/-! ## The varints that are read -/

/-- What is read as a number within a budget of bytes is a varint of it. -/
theorem groups_eq_ok {budget : Nat} {input rest : Bytes} {n : Nat}
    (h : groups budget input = .ok (n, rest)) :
    ∃ bytes, input = bytes ++ rest ∧ bytes.length ≤ budget ∧ Spells bytes n := by
  induction budget generalizing input n with
  | zero => cases h
  | succ budget ih =>
    cases input with
    | nil => cases h
    | cons b input =>
      rw [groups] at h
      split at h
      next low =>
        cases h
        exact ⟨[b], rfl, by simp, .last low⟩
      next high =>
        cases hr : groups budget input with
        | error e =>
          rw [hr] at h
          cases h
        | ok p =>
          rw [hr] at h
          cases h
          obtain ⟨bytes, rfl, hlen, hspells⟩ := ih hr
          exact ⟨b :: bytes, rfl, by simpa using hlen, .next high hspells⟩

/-- What is read as a word at a position of a buffer is a varint of a number with the bits of the
word, and it stands between the two positions. -/
theorem readAt_spells {data : Bytes} {pos pos' : Nat} {v : UInt64}
    (h : read.readAt data pos = .ok (v, pos')) :
    ∃ n bytes, Spells bytes n ∧ UInt64.ofNat n = v ∧ pos' - pos = bytes.length ∧
      (data.drop pos).take bytes.length = bytes := by
  obtain ⟨rest, hread, rfl⟩ := Reader.readAt_eq_ok.mp h
  obtain ⟨n, hgroups, hv⟩ := Reader.map_eq_ok hread
  obtain ⟨bytes, hbytes, -, hspells⟩ := groups_eq_ok hgroups
  refine ⟨n, bytes, hspells, hv, ?_, ?_⟩
  · have hlen := congrArg List.length hbytes
    have hpos := hspells.length_pos
    simp only [List.length_drop, List.length_append] at hlen
    omega
  · rw [hbytes, List.take_left]

/-- The varint of a word has one to ten bytes, and of these just the last has its high bit clear.
Wherever the word is read from a buffer, in whatever form, no fewer bytes are read than are written
for it; and if they are as many, but not ten, they are what is written. -/
theorem encode_shortest :
    (∀ v : UInt64, 1 ≤ (encode v.toNat).length ∧ (encode v.toNat).length ≤ 10 ∧
      ∃ front last, encode v.toNat = front ++ [last] ∧ (∀ b ∈ front, 128 ≤ b) ∧ last < 128) ∧
    ∀ (data : Bytes) (pos pos' : Nat) (v : UInt64), read.readAt data pos = .ok (v, pos') →
      (encode v.toNat).length ≤ pos' - pos ∧
      (pos' - pos = (encode v.toNat).length → pos' - pos ≤ 9 →
        (data.drop pos).take (pos' - pos) = encode v.toNat) := by
  constructor
  · intro v
    have hroom : v.toNat < 128 ^ (9 + 1) := Nat.lt_of_lt_of_le v.toNat_lt (by decide)
    have hspells := spells_encode v.toNat
    exact ⟨hspells.length_pos, length_encode_le hroom, hspells.exists_last⟩
  · intro data pos pos' v h
    obtain ⟨n, bytes, hspells, rfl, hlen, hbytes⟩ := readAt_spells h
    have hword : (UInt64.ofNat n).toNat = n % UInt64.size := UInt64.toNat_ofNat'
    rw [hlen, hbytes, hword]
    refine ⟨hspells.length_encode_le (Nat.mod_le _ _), ?_⟩
    intro hshort hnine
    -- Nine bytes have no more than 63 bits, so that none of them is dropped.
    have hfits : n < UInt64.size := calc
      n < 128 ^ bytes.length := hspells.lt_pow
      _ ≤ 128 ^ 9 := Nat.pow_le_pow_right (by decide) hnine
      _ < UInt64.size := by decide
    rw [Nat.mod_eq_of_lt hfits] at hshort ⊢
    exact hspells.eq_encode hshort

/-- A number is read from two bytes, which are what is written, and from three, with a zero above
its digits. -/
theorem encode_shortest_300 :
    read.readAt [0xFF, 0xAC, 0x02, 0x07] 1 = .ok (300, 3) ∧
    ([0xAC, 0x02] : Bytes) = encode 300 ∧
    read.readAt [0xFF, 0xAC, 0x82, 0x00] 1 = .ok (300, 4) ∧ (encode 300).length ≤ 3 := by
  have hshort : read.readAt [0xFF, 0xAC, 0x02, 0x07] 1 = .ok (300, 3) := rfl
  have hlong : read.readAt [0xFF, 0xAC, 0x82, 0x00] 1 = .ok (300, 4) := rfl
  have hlen : (encode 300).length = 2 := by
    with_unfolding_all decide
  have hbytes := (encode_shortest.2 _ 1 3 300 hshort).2 hlen.symm (by decide)
  exact ⟨hshort, hbytes, hlong, (encode_shortest.2 _ 1 4 300 hlong).1⟩

/-- Of ten bytes the last has one bit in the word: a word can be read from ten that are not the ten
it is written in. -/
example :
    read [0x80, 0x80, 0x80, 0x80, 0x80, 0x80, 0x80, 0x80, 0x80, 0x03] =
      .ok (0x8000000000000000, []) ∧
    encode 0x8000000000000000 =
      [0x80, 0x80, 0x80, 0x80, 0x80, 0x80, 0x80, 0x80, 0x80, 0x01] := by
  constructor
  · rfl
  · with_unfolding_all decide

end Wiregen.Wire.Varint
