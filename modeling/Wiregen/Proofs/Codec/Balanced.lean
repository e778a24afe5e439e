import Wiregen.Failure
import Wiregen.Proofs.Codec.Meaning
import Wiregen.Proofs.Codec.Written

/-!
# What is read can be written

An entry of a map is appended to both of its lists, so the lists are of the same length in every
message that is read, whatever its bytes are: records in any order, entries without a key or without
a value, several of either (`decode_balanced`). The same is true of the messages inside, which are
read from shorter blocks. Such a message is written without a halt (`encode_of_balanced`).
-/

namespace Wiregen.Codec

open Schema (Shape)
open Wire (Bytes Payload Split)

variable {c : Catalog}

/-! ## Defaults and lists -/

/-- The default of a field is balanced: a map starts with two empty lists. -/
theorem Slot.default_balanced (shape : Shape (Element c.size)) :
    (Slot.default (c := c) shape).Balanced := by
  cases shape with
  | singular e => cases e <;> trivial
  | repeated e => trivial
  | map k v => exact ⟨rfl, trivial, trivial⟩

/-- A default message is balanced. -/
theorem Slots.default_balanced (fields : List (Field c.size)) :
    (Slots.default (c := c) fields).Balanced := by
  induction fields with
  | nil => trivial
  | cons f fields ih => exact ⟨Slot.default_balanced f.shape, ih⟩

/-- A default value is balanced. -/
theorem Value.default_balanced (e : Element c.size) : (Value.default (c := c) e).Balanced := by
  cases e with
  | scalar s => trivial
  | message i => exact Slots.default_balanced (c.fields i)

section
variable {e : Element c.size} {v : Value c e}

/-- Balanced values stay balanced with one more behind them. -/
theorem Values.push_balanced (hv : v.Balanced) :
    {vs : Values c e} → vs.Balanced → (vs.push v).Balanced
  | .nil, _ => ⟨hv, trivial⟩
  | .cons _ _, h => ⟨h.1, push_balanced hv h.2⟩

/-- A value pushed makes the values one more. -/
theorem Values.length_push (v : Value c e) (vs : Values c e) :
    (vs.push v).length = vs.length + 1 := by
  rw [← length_toList, toList_push, List.length_append, length_toList]
  rfl

end

/-! ## Records that are taken in -/

/-- A reading of nested messages that gives balanced ones for all blocks shorter than a length. -/
def Nested.BalancedBelow (n : Nat) (nested : Nested c) : Prop :=
  ∀ i ⦃block : Bytes⦄, block.length < n → ∀ ⦃m⦄, nested i block = .ok m → m.Balanced

section
variable {nested : Nested c} {n : Nat}

/-- What is balanced for blocks up to a length is so for those up to a smaller one. -/
theorem Nested.BalancedBelow.mono {n' : Nat} (h : nested.BalancedBelow n) (hle : n' ≤ n) :
    nested.BalancedBelow n' :=
  fun i _ hlt => h i (Nat.lt_of_lt_of_le hlt hle)

/-- A payload shorter than the length stands for a balanced value. -/
theorem Value.ofPayload_balanced (h : nested.BalancedBelow n) {p : Payload}
    (hp : p.content.length < n) {e : Element c.size} {v : Value c e}
    (hv : Value.ofPayload nested e p = .ok v) : v.Balanced := by
  cases e with
  | scalar s =>
    obtain ⟨a, -, rfl⟩ := map_eq_ok.mp hv
    trivial
  | message i =>
    obtain ⟨m, hm, rfl⟩ := map_eq_ok.mp hv
    exact h i hp hm

/-- A block of length `n` appends balanced values. -/
theorem Values.pushBlock_balanced {block : Bytes} (h : nested.BalancedBelow block.length)
    {e : Element c.size} {vs ws : Values c e} (hvs : vs.Balanced)
    (hws : vs.pushBlock nested block = .ok ws) : ws.Balanced := by
  refine Split.fold_invariant (fun p hp us us' hus hpush => ?_) hvs hws
  obtain ⟨front, rest, hread, hle⟩ := Wire.read_of_mem_split hp
  have hlt := Nat.lt_of_lt_of_le (Payload.length_content_lt hread) hle
  obtain ⟨v, hv, rfl⟩ := map_eq_ok.mp hpush
  exact push_balanced (Value.ofPayload_balanced h hlt hv) hus

/-- An entry has a balanced key and a balanced value, read or not. -/
theorem Entry.ofBlock_balanced {block : Bytes} (h : nested.BalancedBelow block.length)
    {k v : Element c.size} {entry : Entry c k v}
    (hentry : Entry.ofBlock nested k v block = .ok entry) :
    entry.key.Balanced ∧ entry.value.Balanced := by
  refine Split.fold_invariant (p := fun entry : Entry c k v =>
    entry.key.Balanced ∧ entry.value.Balanced) (fun r hr entry entry' hbefore habsorb => ?_)
    ⟨Value.default_balanced k, Value.default_balanced v⟩ hentry
  obtain ⟨front, rest, hread, hle⟩ := Wire.read_of_mem_split hr
  have hlt := Nat.lt_of_lt_of_le (Entry.length_content_lt hread) hle
  rw [absorb] at habsorb
  split at habsorb
  next =>
    obtain ⟨key, hkey, rfl⟩ := map_eq_ok.mp habsorb
    exact ⟨Value.ofPayload_balanced h hlt hkey, hbefore.2⟩
  next =>
    obtain ⟨value, hvalue, rfl⟩ := map_eq_ok.mp habsorb
    exact ⟨hbefore.1, Value.ofPayload_balanced h hlt hvalue⟩

/-- A balanced slot stays balanced: a list grows by balanced values, the lists of a map by one
each. -/
theorem Slot.absorb_balanced {r : Record} (h : nested.BalancedBelow n)
    (hr : r.payload.content.length < n) {number : UInt32} {shape : Shape (Element c.size)}
    {slot slot' : Slot c shape} (hslot : slot.Balanced)
    (habsorb : slot.absorb nested number r = .ok slot') : slot'.Balanced := by
  have hblock := h.mono (Nat.le_of_lt hr)
  cases slot with
  | scalar v =>
    rw [absorb] at habsorb
    split at habsorb
    next =>
      obtain ⟨a, -, rfl⟩ := map_eq_ok.mp habsorb
      trivial
    next => cases habsorb; exact hslot
  | absent | present m =>
    rw [absorb] at habsorb
    split at habsorb
    next =>
      obtain ⟨m, hm, rfl⟩ := map_eq_ok.mp habsorb
      exact h _ hr hm
    next => cases habsorb; exact hslot
  | repeated vs =>
    rw [absorb] at habsorb
    split at habsorb
    next =>
      obtain ⟨v, hv, rfl⟩ := map_eq_ok.mp habsorb
      exact Values.push_balanced (Value.ofPayload_balanced h hr hv) hslot
    next =>
      split at habsorb
      next =>
        obtain ⟨ws, hws, rfl⟩ := map_eq_ok.mp habsorb
        exact Values.pushBlock_balanced hblock hslot hws
      next => cases habsorb; exact hslot
  | map keys values =>
    rw [absorb] at habsorb
    split at habsorb
    next =>
      obtain ⟨entry, hentry, rfl⟩ := map_eq_ok.mp habsorb
      obtain ⟨hkey, hvalue⟩ := Entry.ofBlock_balanced hblock hentry
      obtain ⟨hlength, hkeys, hvalues⟩ := hslot
      refine ⟨?_, Values.push_balanced hkey hkeys, Values.push_balanced hvalue hvalues⟩
      rw [Values.length_push, Values.length_push, hlength]
    next => cases habsorb; exact hslot

/-- A balanced message stays balanced with one record taken in. -/
theorem Slots.absorb_balanced {r : Record} (h : nested.BalancedBelow n)
    (hr : r.payload.content.length < n) {fields : List (Field c.size)}
    {slots slots' : Slots c fields} (hslots : slots.Balanced)
    (habsorb : slots.absorb nested r = .ok slots') : slots'.Balanced := by
  induction fields with
  | nil =>
    cases slots'
    trivial
  | cons f fields ih =>
    cases slots with
    | cons slot slots =>
      obtain ⟨hslot, hslots⟩ := hslots
      obtain ⟨first, hfirst, habsorb⟩ := bind_eq_ok.mp habsorb
      obtain ⟨others, hothers, habsorb⟩ := bind_eq_ok.mp habsorb
      cases habsorb
      exact ⟨Slot.absorb_balanced h hr hslot hfirst, ih hslots hothers⟩

/-- A balanced message stays balanced with all records of an input taken in. -/
theorem absorbAll_balanced {input : Bytes} (h : nested.BalancedBelow input.length) {i : Fin c.size}
    {m m' : Message c i} (hm : m.Balanced) (habsorb : absorbAll nested m input = .ok m') :
    m'.Balanced := by
  refine Split.fold_invariant (fun r hr m m' hm habsorb => ?_) hm habsorb
  obtain ⟨front, rest, hread, hle⟩ := Wire.read_of_mem_split hr
  exact Slots.absorb_balanced h (Nat.lt_of_lt_of_le (Record.length_content_lt hread) hle) hm habsorb

end

/-! ## Messages -/

/-- Every message that is read is balanced, where keys tell the fields of each message apart. -/
theorem decode_balanced (distinct : ∀ j, KeysDistinct (c.fields j)) {i : Fin c.size} {input : Bytes}
    {m : Message c i} (h : decode i input = .ok m) : m.Balanced := by
  induction hn : input.length using Nat.strongRecOn generalizing i input m with
  | ind n ih =>
    subst hn
    rw [decode_eq_absorbAll distinct] at h
    have hnested : Nested.BalancedBelow input.length (decode (c := c)) :=
      fun j block hlt m hm => ih _ hlt hm rfl
    exact absorbAll_balanced hnested (Slots.default_balanced (c.fields i)) h

/-- A balanced message is written to its end. -/
theorem encode_of_balanced {i : Fin c.size} {m : Message c i} (balanced : m.Balanced) :
    encode m = some m.written.bytes := by
  have hhalted : m.written.halted = false := by
    rw [Slots.written_eq m balanced]
    rfl
  rw [encode, hhalted]
  rfl

end Wiregen.Codec
