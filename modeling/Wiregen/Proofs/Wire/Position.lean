import Wiregen.Failure
import Wiregen.Proofs.Wire.Payload

/-!
# Reading at a position

A read at a position of a buffer is the read of what stands there. Bytes before the buffer only move
it (`Reader.Keeps.readAt_shift`), bytes behind the buffer do not change what it takes or refuses
(`Reader.LooksAtFront.readAt_extend`, `Reader.RefusesAtFront.readAt_extend`), and a read after it
goes on at the position where it ends (`Reader.LooksAtFront.readAt_andThen`). Of an item with any
bytes before and behind it, it gives the item and the position just past the item
(`Reader.readAt_append`). So every scalar, varint and key that is written anywhere is read there
again (`readAt_encode`).
-/

namespace Wiregen.Wire

variable {α : Type} {r : Reader α}

/-! ## Positions -/

/-- A read at a position gives what is read of the bytes from there on, and where these are left
off. -/
theorem Reader.readAt_eq_ok {data : Bytes} {pos pos' : Nat} {a : α} :
    r.readAt data pos = .ok (a, pos') ↔
      ∃ rest, r (data.drop pos) = .ok (a, rest) ∧ data.length - rest.length = pos' := by
  constructor
  · intro h
    obtain ⟨⟨a', rest⟩, hread, heq⟩ := Wiregen.map_eq_ok.mp h
    cases heq
    exact ⟨rest, hread, rfl⟩
  · rintro ⟨rest, hread, rfl⟩
    exact Wiregen.map_eq_ok.mpr ⟨(a, rest), hread, rfl⟩

/-- A read at a position fails as the read of the bytes from there on does. -/
theorem Reader.readAt_eq_error {data : Bytes} {pos : Nat} {e : DecodeError} :
    r.readAt data pos = .error e ↔ r (data.drop pos) = .error e :=
  Wiregen.map_eq_error

/-- A change of the value leaves the position behind it. -/
theorem Reader.readAt_map {β : Type} (f : α → β) (data : Bytes) (pos : Nat) :
    (r.map f).readAt data pos = (r.readAt data pos).map fun p => (f p.1, p.2) := by
  rw [readAt, readAt, Reader.map]
  cases r (data.drop pos) <;> rfl

/-- What is done to the value of a read at a position leaves the position as it is. -/
theorem Reader.readAt_tryMap {β : Type} (f : α → Except DecodeError β) (data : Bytes) (pos : Nat) :
    (r.tryMap f).readAt data pos =
      r.readAt data pos >>= fun p => (f p.1).map fun b => (b, p.2) := by
  rw [readAt, readAt, tryMap, andThen]
  cases r (data.drop pos) with
  | error e => rfl
  | ok p =>
    simp only [Except.map, bind, Except.bind]
    cases f p.1 <;> rfl

section
variable {data : Bytes} {pos next : Nat} {a : α}

/-- A read that leaves no more than it is given ends behind its position and in the buffer. -/
theorem Reader.Keeps.le_of_readAt (keeps : r.Keeps) (hpos : pos ≤ data.length)
    (h : r.readAt data pos = .ok (a, next)) : pos ≤ next ∧ next ≤ data.length := by
  obtain ⟨rest, hread, rfl⟩ := Reader.readAt_eq_ok.mp h
  have hrest := keeps hread
  rw [List.length_drop] at hrest
  omega

/-- A read that leaves less than it is given moves on, and not past the end of the buffer. -/
theorem Reader.Shortens.lt_of_readAt (shortens : r.Shortens)
    (h : r.readAt data pos = .ok (a, next)) : pos < next ∧ next ≤ data.length := by
  obtain ⟨rest, hread, rfl⟩ := Reader.readAt_eq_ok.mp h
  have hrest := shortens hread
  rw [List.length_drop] at hrest
  omega

/-- What a read leaves stands behind the position it ends at. -/
theorem Reader.LooksAtFront.drop_eq (looks : r.LooksAtFront) {rest : Bytes}
    (h : r (data.drop pos) = .ok (a, rest)) : data.drop (data.length - rest.length) = rest := by
  obtain ⟨front, hfront, -⟩ := looks h
  have hdata : data = data.take pos ++ front ++ rest := by
    rw [List.append_assoc, ← hfront, List.take_append_drop]
  have hlen : data.length - rest.length = (data.take pos ++ front).length := by
    have := congrArg List.length hdata
    rw [List.length_append] at this
    omega
  rw [hlen]
  exact (congrArg (List.drop _) hdata).trans List.drop_left

/-- A read that goes on after another goes on where that ends. -/
theorem Reader.LooksAtFront.readAt_andThen {β : Type} {goOn : α → Reader β}
    (looks : r.LooksAtFront) (h : r.readAt data pos = .ok (a, next)) :
    (r.andThen goOn).readAt data pos = (goOn a).readAt data next := by
  obtain ⟨rest, hread, rfl⟩ := Reader.readAt_eq_ok.mp h
  rw [readAt, andThen_of_ok hread, readAt, looks.drop_eq hread]

/-- What stands before the position of a read only moves it. -/
theorem Reader.Keeps.readAt_shift (keeps : r.Keeps) (hpos : pos ≤ data.length) (before : Bytes) :
    r.readAt (before ++ data) (before.length + pos) =
      (r.readAt data pos).map fun p => (p.1, before.length + p.2) := by
  rw [readAt, readAt, List.drop_length_add_append]
  cases hread : r (data.drop pos) with
  | error e => rfl
  | ok p =>
    have hrest := keeps hread
    rw [List.length_drop] at hrest
    have hend : (before ++ data).length - p.2.length =
        before.length + (data.length - p.2.length) := by
      rw [List.length_append]
      omega
    simp only [Except.map, hend]

/-- What stands behind the end of a read does not matter to it. -/
theorem Reader.LooksAtFront.readAt_extend (looks : r.LooksAtFront) (hpos : pos ≤ data.length)
    (h : r.readAt data pos = .ok (a, next)) (behind : Bytes) :
    r.readAt (data ++ behind) pos = .ok (a, next) := by
  obtain ⟨rest, hread, rfl⟩ := Reader.readAt_eq_ok.mp h
  refine Reader.readAt_eq_ok.mpr ⟨rest ++ behind, ?_, ?_⟩
  · rw [List.drop_append_of_le_length hpos]
    exact looks.append hread behind
  · rw [List.length_append, List.length_append, Nat.add_sub_add_right]

/-- What is refused at a position is refused with anything behind it. -/
theorem Reader.RefusesAtFront.readAt_extend (refuses : r.RefusesAtFront) {e : DecodeError}
    (hpos : pos ≤ data.length) (h : r.readAt data pos = .error e) (hne : e ≠ .bufferOverflow)
    (behind : Bytes) : r.readAt (data ++ behind) pos = .error e := by
  rw [Reader.readAt_eq_error] at h ⊢
  rw [List.drop_append_of_le_length hpos]
  exact refuses h hne behind

end

/-- An item is read where it stands, up to the position just past it. -/
theorem Reader.readAt_append {before item behind : Bytes} {a : α}
    (h : r (item ++ behind) = .ok (a, behind)) :
    r.readAt (before ++ item ++ behind) before.length = .ok (a, before.length + item.length) := by
  have hpos : (before ++ item ++ behind).length - behind.length = before.length + item.length := by
    simp only [List.length_append]
    omega
  rw [readAt, List.append_assoc, List.drop_left, h, ← List.append_assoc]
  exact congrArg (fun pos => Except.ok (a, pos)) hpos

/-! ## What is written is read -/

/-- A word's varint is read back as that word. -/
theorem Varint.read_encode_word (n : UInt64) (rest : Bytes) :
    Varint.read (Varint.encode n.toNat ++ rest) = .ok (n, rest) := by
  rw [Varint.read_encode n.toNat_lt, UInt64.ofNat_toNat]

/-- A value whose block, if it has one, is no longer than a length can say is read back, whatever is
behind it. -/
theorem Scalar.read_encode {s : Scalar} {v : s.Carrier}
    (h : (s.toPayload v).content.length < UInt64.size) (rest : Bytes) :
    s.read (s.encode v ++ rest) = .ok (v, rest) := by
  have hpayload := Payload.read_encode (Scalar.toPayload_fits h) rest
  rw [Scalar.read_eq, Scalar.encode_eq, Reader.tryMap, Reader.andThen_of_ok hpayload,
    Scalar.ofPayload_toPayload]
  rfl

/-- The block of a value is no longer than a length can say if that is known of texts and byte
strings; numbers have none. -/
theorem Scalar.length_content_lt {s : Scalar} {v : s.Carrier}
    (h : s.wireType = .lengthDelimited → (s.encode v).length < UInt64.size) :
    (s.toPayload v).content.length < UInt64.size := by
  by_cases hw : s.wireType = .lengthDelimited
  · refine Nat.lt_of_le_of_lt (s.length_content_le v) ?_
    rw [← s.encode_eq v]
    exact h hw
  · cases s with
    | string | bytes => exact absurd rfl hw
    | _ => exact (by decide : 0 < UInt64.size)

/-- Whatever stands before and behind it, what is written is read where it stands, up to its end and
no further: every word as a varint, every key, and every value of every scalar type, with the bits
of a floating point number as they are. (A length takes 64 bits on the wire; no buffer is longer
than that.) -/
theorem readAt_encode (before behind : Bytes) :
    (∀ n : UInt64, Varint.read.readAt (before ++ Varint.encode n.toNat ++ behind) before.length =
      .ok (n, before.length + (Varint.encode n.toNat).length)) ∧
    (∀ key : UInt64, readKey.readAt (before ++ encodeKey key ++ behind) before.length =
      .ok (key, before.length + (encodeKey key).length)) ∧
    ∀ (s : Scalar) (v : s.Carrier),
      (s.wireType = .lengthDelimited → (s.encode v).length < UInt64.size) →
      s.read.readAt (before ++ s.encode v ++ behind) before.length =
        .ok (v, before.length + (s.encode v).length) := by
  refine ⟨fun n => ?_, fun key => ?_, fun s v h => ?_⟩
  · exact Reader.readAt_append (Varint.read_encode_word n behind)
  · exact Reader.readAt_append (Varint.read_encode_word key behind)
  · exact Reader.readAt_append (Scalar.read_encode (Scalar.length_content_lt h) behind)

/-- A text whose neighbours would go on with its length and with its last character, and the least
of the signed numbers, which takes all ten bytes. -/
theorem readAt_encode_between :
    (Scalar.encode .string "é").length < UInt64.size ∧
    (Scalar.read .string).readAt ([0x80] ++ Scalar.encode .string "é" ++ [0xA9]) 1 =
      .ok ("é", 4) ∧
    (Scalar.read .sint64).readAt ([0x80] ++ Scalar.encode .sint64 Int64.minValue ++ [0x01]) 1 =
      .ok (Int64.minValue, 11) := by
  have htext : (Scalar.encode .string "é").length = 3 := by
    with_unfolding_all decide
  have hnumber : (Scalar.encode .sint64 Int64.minValue).length = 10 := by
    with_unfolding_all decide
  have hshort : (Scalar.encode .string "é").length < UInt64.size := by
    rw [htext]
    decide
  have hreadText := (readAt_encode [0x80] [0xA9]).2.2 .string "é" fun _ => hshort
  have hreadNumber := (readAt_encode [0x80] [0x01]).2.2 .sint64 Int64.minValue nofun
  rw [htext] at hreadText
  rw [hnumber] at hreadNumber
  exact ⟨hshort, hreadText, hreadNumber⟩

end Wiregen.Wire
