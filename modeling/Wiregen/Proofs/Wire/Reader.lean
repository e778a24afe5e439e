import Mathlib.Algebra.Group.Nat.Defs
import Wiregen.Wire.Key

/-!
# Readers leave less than they are given

Reading up to the end comes to an end because each reader leaves less than it was given
(`Reader.Shortens`); a reader of no bytes at all leaves at least no more (`Reader.Keeps`). The
second half of the module reads back what the writers of varints, words and blocks wrote, with any
bytes behind it.
-/

namespace Wiregen.Wire

variable {α β : Type}

/-! ## What a reader leaves -/

/-- A read that leaves less than it is given. -/
def Reader.Shortens (r : Reader α) : Prop :=
  ∀ ⦃input a rest⦄, r input = .ok (a, rest) → rest.length < input.length

/-- A read that leaves no more than it is given. -/
def Reader.Keeps (r : Reader α) : Prop :=
  ∀ ⦃input a rest⦄, r input = .ok (a, rest) → rest.length ≤ input.length

namespace Reader

/-- What a changed read gives comes from the read itself. -/
theorem map_eq_ok {r : Reader α} {f : α → β} {input rest : Bytes} {b : β}
    (h : r.map f input = .ok (b, rest)) : ∃ a, r input = .ok (a, rest) ∧ f a = b := by
  unfold Reader.map at h
  cases hr : r input with
  | error e => rw [hr] at h; cases h
  | ok p =>
    rw [hr] at h
    cases h
    exact ⟨p.1, rfl, rfl⟩

/-- What two reads give comes from the first and then from the second. -/
theorem andThen_eq_ok {r : Reader α} {next : α → Reader β} {input rest : Bytes} {b : β}
    (h : r.andThen next input = .ok (b, rest)) :
    ∃ a mid, r input = .ok (a, mid) ∧ next a mid = .ok (b, rest) := by
  unfold Reader.andThen at h
  cases hr : r input with
  | error e => rw [hr] at h; cases h
  | ok p =>
    rw [hr] at h
    exact ⟨p.1, p.2, rfl, h⟩

/-- A read that succeeds does so with its value changed. -/
theorem map_of_ok {r : Reader α} {f : α → β} {input rest : Bytes} {a : α}
    (h : r input = .ok (a, rest)) : r.map f input = .ok (f a, rest) := by
  rw [Reader.map, h]; rfl

/-- Behind a read that succeeds the next one goes on with what is left. -/
theorem andThen_of_ok {r : Reader α} {next : α → Reader β} {input rest : Bytes} {a : α}
    (h : r input = .ok (a, rest)) : r.andThen next input = next a rest := by
  rw [Reader.andThen, h]

/-- Behind a read that fails there is no other. -/
theorem andThen_of_error {r : Reader α} {next : α → Reader β} {input : Bytes} {e : DecodeError}
    (h : r input = .error e) : r.andThen next input = .error e := by
  rw [Reader.andThen, h]

/-- A read whose value is not changed is the read itself. -/
theorem map_id (r : Reader α) : (r.map fun a => a) = r := by
  funext input
  simp only [Reader.map]
  cases r input <;> rfl

/-- Two changes of a value are one. -/
theorem map_map {γ : Type} (r : Reader α) (f : α → β) (g : β → γ) :
    (r.map f).map g = r.map fun a => g (f a) := by
  funext input
  simp only [Reader.map]
  cases r input <;> rfl

/-- The same read with its value changed by something that may refuse it. -/
def tryMap (r : Reader α) (f : α → Except DecodeError β) : Reader β :=
  r.andThen fun a rest => (f a).map fun b => (b, rest)

/-- What is read and then changed was read before. -/
theorem tryMap_eq_ok {r : Reader α} {f : α → Except DecodeError β} {input rest : Bytes} {b : β}
    (h : r.tryMap f input = .ok (b, rest)) : ∃ a, r input = .ok (a, rest) ∧ f a = .ok b := by
  obtain ⟨a, mid, ha, hb⟩ := andThen_eq_ok h
  cases hf : f a with
  | error e => rw [hf] at hb; cases hb
  | ok b' =>
    rw [hf] at hb
    cases hb
    exact ⟨a, ha, hf⟩

/-- A change that refuses nothing is a plain change. -/
theorem tryMap_ok (r : Reader α) (f : α → β) : (r.tryMap fun a => .ok (f a)) = r.map f := by
  funext input
  simp only [tryMap, Reader.map, Reader.andThen]
  cases r input <;> rfl

/-- To change a value and then try something on it is to try that on the changed value. -/
theorem map_tryMap {γ : Type} (r : Reader α) (f : α → β) (g : β → Except DecodeError γ) :
    (r.map f).tryMap g = r.tryMap fun a => g (f a) := by
  funext input
  simp only [tryMap, Reader.map, Reader.andThen]
  cases r input <;> rfl

/-- To try something on a value and then change the result is one thing that is tried. -/
theorem tryMap_map {γ : Type} (r : Reader α) (f : α → Except DecodeError β) (g : β → γ) :
    (r.tryMap f).map g = r.tryMap fun a => (f a).map g := by
  funext input
  simp only [tryMap, Reader.map, Reader.andThen]
  cases r input with
  | error e => rfl
  | ok p =>
    obtain ⟨a, rest⟩ := p
    dsimp only
    cases f a <;> rfl

/-- What is read behind a first value is changed where it is read. -/
theorem andThen_tryMap {γ : Type} (r : Reader α) (next : α → Reader β)
    (f : β → Except DecodeError γ) :
    (r.andThen next).tryMap f = r.andThen fun a => (next a).tryMap f := by
  funext input
  simp only [tryMap, Reader.andThen]
  cases r input <;> rfl

/-- A read that leaves less than it is given leaves no more. -/
theorem Shortens.keeps {r : Reader α} (h : r.Shortens) : r.Keeps :=
  fun _ _ _ hr => Nat.le_of_lt (h hr)

/-- Changing the value changes nothing about what is left. -/
theorem Shortens.map {r : Reader α} (h : r.Shortens) (f : α → β) : (r.map f).Shortens := by
  intro input b rest hb
  obtain ⟨a, ha, -⟩ := map_eq_ok hb
  exact h ha

/-- A read leaves less than it is given when something is tried on its value. -/
theorem Shortens.tryMap {r : Reader α} (h : r.Shortens) (f : α → Except DecodeError β) :
    (r.tryMap f).Shortens := by
  intro input b rest hb
  obtain ⟨a, ha, -⟩ := tryMap_eq_ok hb
  exact h ha

/-- A read that goes on after one that shortens shortens too. -/
theorem Shortens.andThen {r : Reader α} {next : α → Reader β} (h : r.Shortens)
    (hnext : ∀ a, (next a).Keeps) : (r.andThen next).Shortens := by
  intro input b rest hb
  obtain ⟨a, mid, ha, hmid⟩ := andThen_eq_ok hb
  exact Nat.lt_of_le_of_lt (hnext a hmid) (h ha)

end Reader

/-- Taking bytes leaves those behind them. -/
theorem take_eq_ok {n : Nat} {input taken rest : Bytes} (h : take n input = .ok (taken, rest)) :
    taken.length = n ∧ input = taken ++ rest := by
  unfold take at h
  split at h
  next hn =>
    cases h
    exact ⟨List.length_take_of_le hn, (List.take_append_drop n input).symm⟩
  next => cases h

/-- Bytes that cannot be taken are missing. -/
theorem take_eq_error {n : Nat} {input : Bytes} {e : DecodeError} (h : take n input = .error e) :
    e = .bufferOverflow := by
  unfold take at h
  split at h
  next => cases h
  next => exact (Except.error.inj h).symm

/-- Taking bytes leaves no more than there were. -/
theorem take_keeps (n : Nat) : (take n).Keeps := by
  intro input taken rest h
  obtain ⟨-, rfl⟩ := take_eq_ok h
  simp

/-- Taking one byte or more leaves less than there was. -/
theorem take_shortens {n : Nat} (hn : 0 < n) : (take n).Shortens := by
  intro input taken rest h
  obtain ⟨hlen, rfl⟩ := take_eq_ok h
  simp only [List.length_append]
  omega

/-- Bytes in front of others can be taken. -/
theorem take_append (front rest : Bytes) :
    take front.length (front ++ rest) = .ok (front, rest) := by
  simp [take]

/-! ## Varints -/

namespace Varint

/-- Every varint has a first byte, so what is behind one is less. -/
theorem groups_shortens : ∀ budget, (groups budget).Shortens
  | 0, input, n, rest, h => by cases h
  | budget + 1, [], n, rest, h => by cases h
  | budget + 1, b :: input, n, rest, h => by
    unfold groups at h
    split at h
    next => cases h; simp
    next =>
      cases hr : groups budget input with
      | error e => rw [hr] at h; cases h
      | ok p =>
        rw [hr] at h
        cases h
        have := groups_shortens budget hr
        simp only [List.length_cons]
        omega

/-- A varint takes at least one byte. -/
theorem read_shortens : read.Shortens := (groups_shortens maxBytes).map _

/-- A low group of seven bits as a byte. -/
theorem toNat_low {n : Nat} (h : n < 128) : n.toUInt8.toNat = n := by
  simp only [Nat.toUInt8, UInt8.toNat_ofNat']
  omega

/-- A group of seven bits with the high bit as a byte. -/
theorem toNat_high (n : Nat) : (n % 128 + 128).toUInt8.toNat = n % 128 + 128 := by
  simp only [Nat.toUInt8, UInt8.toNat_ofNat']
  omega

/-- The last byte of a varint has its high bit clear. -/
theorem low_lt {n : Nat} (h : n < 128) : n.toUInt8 < 128 := by
  rw [UInt8.lt_iff_toNat_lt, toNat_low h]
  exact h

/-- Any other byte of a varint has its high bit set. -/
theorem not_high_lt (n : Nat) : ¬ (n % 128 + 128).toUInt8 < 128 := by
  rw [UInt8.lt_iff_toNat_lt, toNat_high]
  simp

/-- A number is read back where it ends within the budget. -/
theorem groups_encode (rest : Bytes) (budget : Nat) :
    ∀ n, n < 128 ^ (budget + 1) → groups (budget + 1) (encode n ++ rest) = .ok (n, rest) := by
  induction budget with
  | zero =>
    intro n h
    have hn : n < 128 := by simpa using h
    rw [encode, if_pos hn, List.cons_append, groups, if_pos (low_lt hn), toNat_low hn,
      List.nil_append]
  | succ budget ih =>
    intro n h
    rw [encode]
    split
    next hn =>
      rw [List.cons_append, groups, if_pos (low_lt hn), toNat_low hn, List.nil_append]
    next hn =>
      have hdiv : n / 128 < 128 ^ (budget + 1) := by
        rw [Nat.pow_succ] at h
        exact Nat.div_lt_of_lt_mul (by omega)
      rw [List.cons_append, groups, if_neg (not_high_lt n), ih _ hdiv, toNat_high]
      have hsum : n % 128 + 128 - 128 + 128 * (n / 128) = n := by omega
      simp only [hsum]

/-- A word's varint is read back, whatever is behind it. -/
theorem read_encode {n : Nat} (h : n < UInt64.size) (rest : Bytes) :
    read (encode n ++ rest) = .ok (UInt64.ofNat n, rest) := by
  have hn : n < 128 ^ (9 + 1) := Nat.lt_of_lt_of_le h (by decide)
  exact Reader.map_of_ok (groups_encode rest 9 n hn)

/-- A varint is never empty. -/
theorem encode_ne_nil (n : Nat) : encode n ≠ [] := by
  rw [encode]
  split <;> simp

end Varint

/-! ## Words -/

namespace Fixed

/-- A word takes at least one byte, unless it is none wide. -/
theorem read_shortens {width : Nat} (h : 0 < width) : (read width).Shortens :=
  (take_shortens h).map _

/-- A word keeps the bits it has room for. -/
theorem value_encode (width : Nat) : ∀ n, value (encode width n) = n % 256 ^ width := by
  induction width with
  | zero => intro n; simp [encode, value, Nat.mod_one]
  | succ width ih =>
    intro n
    have hbyte : n.toUInt8.toNat = n % 256 := by simp [Nat.toUInt8]
    rw [encode, value, ih, hbyte, Nat.pow_succ, Nat.mul_comm (256 ^ width), Nat.mod_mul]

/-- A number that has room in a word is read back from it. -/
theorem read_encode {width n : Nat} (h : n < 256 ^ width) (rest : Bytes) :
    read width (encode width n ++ rest) = .ok (n, rest) := by
  have htake : take width (encode width n ++ rest) = .ok (encode width n, rest) := by
    have := take_append (encode width n) rest
    rwa [length_encode] at this
  rw [read, Reader.map_of_ok htake, value_encode, Nat.mod_eq_of_lt h]

end Fixed

/-! ## Blocks -/

namespace Delimited

/-- A block takes at least the byte of its length. -/
theorem read_shortens : read.Shortens := Varint.read_shortens.andThen fun _ => take_keeps _

/-- A block is written in no fewer bytes than it holds. -/
theorem length_le_encode (content : Bytes) : content.length ≤ (encode content).length := by
  rw [encode, List.length_append]
  exact Nat.le_add_left _ _

/-- A block is read back if its length is a word. -/
theorem read_encode {content : Bytes} (h : content.length < UInt64.size) (rest : Bytes) :
    read (encode content ++ rest) = .ok (content, rest) := by
  have hlen : (UInt64.ofNat content.length).toNat = content.length := by
    rw [UInt64.toNat_ofNat']
    exact Nat.mod_eq_of_lt h
  rw [read, encode, List.append_assoc, Reader.andThen_of_ok (Varint.read_encode h _), hlen,
    take_append]

/-- The content of a block is less than the block. -/
theorem length_lt_of_read {input content rest : Bytes} (h : read input = .ok (content, rest)) :
    content.length < input.length := by
  obtain ⟨n, mid, hn, htake⟩ := Reader.andThen_eq_ok h
  obtain ⟨-, rfl⟩ := take_eq_ok htake
  have := Varint.read_shortens hn
  simp only [List.length_append] at this
  omega

end Delimited

namespace Utf8

/-- The bytes of a text are those of that text. -/
theorem decode?_encode (s : String) : decode? (encode s) = some s := by
  have hbytes : (⟨(encode s).toArray⟩ : ByteArray) = s.toByteArray := by simp [encode]
  rw [decode?, hbytes, String.fromUTF8?, dif_pos (by simpa using s.isValidUTF8)]
  rfl

end Utf8

end Wiregen.Wire
