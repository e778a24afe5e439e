import Wiregen.Proofs.Wire.Position

/-!
# Passing over what is not known

A record whose field is not known is passed over as the wire type of its key says. That ends where
the value would if the field were known, whatever scalar type it has, and fails as reading it would
(`skip_agrees`): both frame the payload, and only what the framed bytes stand for can be refused on
top of that. Of all types this happens to texts alone, where the bytes are no UTF-8.
-/

namespace Wiregen.Wire

variable {α β : Type}

/-! ## Texts -/

namespace Utf8

/-- Bytes that are no UTF-8 are those of no text. -/
theorem decode?_eq_none {bytes : Bytes} :
    decode? bytes = none ↔ ¬ (⟨bytes.toArray⟩ : ByteArray).IsValidUTF8 := by
  rw [decode?, String.fromUTF8?]
  split
  next h => simp [h]
  next h => simp [h]

/-- The text of some bytes is the one that is written as these. -/
theorem decode?_eq_some {bytes : Bytes} {text : String} :
    decode? bytes = some text ↔ encode text = bytes := by
  constructor
  · intro h
    rw [decode?, String.fromUTF8?] at h
    split at h
    next hvalid =>
      cases h
      rfl
    next => cases h
  · rintro rfl
    exact decode?_encode text

end Utf8

/-! ## Failures -/

/-- A read that fails only where its input ends or a varint in it is too long. -/
def Reader.Frames (r : Reader α) : Prop :=
  ∀ ⦃input e⦄, r input = .error e → e = .bufferOverflow ∨ e = .invalidVarint

/-- A read fails for the same reasons when its value is changed. -/
theorem Reader.Frames.map {r : Reader α} (h : r.Frames) (f : α → β) : (r.map f).Frames := by
  intro input e he
  exact h (Wiregen.map_eq_error.mp he)

/-- Two reads that fail for their framing only do so one behind the other. -/
theorem Reader.Frames.andThen {r : Reader α} {next : α → Reader β} (h : r.Frames)
    (hnext : ∀ a, (next a).Frames) : (r.andThen next).Frames := by
  intro input e he
  cases hr : r input with
  | error e' =>
    rw [andThen_of_error hr] at he
    cases he
    exact h hr
  | ok p =>
    rw [andThen_of_ok hr] at he
    exact hnext p.1 he

/-- Taking bytes fails only where the input ends. -/
theorem take_frames (n : Nat) : (take n).Frames := fun _ _ he => .inl (take_eq_error he)

/-- A varint fails only where the input ends or where it is too long. -/
theorem Varint.groups_frames : ∀ budget, (groups budget).Frames
  | 0, _, _, he => .inr (Except.error.inj he).symm
  | _ + 1, [], _, he => .inl (Except.error.inj he).symm
  | budget + 1, b :: input, e, he => by
    unfold groups at he
    split at he
    next => cases he
    next =>
      cases hr : groups budget input with
      | ok p => rw [hr] at he; cases he
      | error e' =>
        rw [hr] at he
        cases he
        exact groups_frames budget hr

/-- A payload fails only for its framing. -/
theorem Payload.read_frames (w : WireType) : (Payload.read w).Frames := by
  have hvarint : Varint.read.Frames := (Varint.groups_frames Varint.maxBytes).map _
  have hfixed : ∀ width, (Fixed.read width).Frames := fun width => (take_frames width).map _
  unfold read
  cases w with
  | varint => exact hvarint.map _
  | fixed64 => exact Reader.Frames.map (hfixed 8) _
  | lengthDelimited => exact Reader.Frames.map (hvarint.andThen fun n => take_frames n.toNat) _
  | fixed32 => exact Reader.Frames.map (hfixed 4) _

/-- Of all payloads those of texts alone can be refused, where they are no UTF-8. -/
theorem Scalar.ofPayload_eq_error {s : Scalar} {p : Payload} {e : DecodeError} :
    s.ofPayload p = .error e ↔ s = .string ∧ e = .invalidUtf8 ∧
      ¬ (⟨p.content.toArray⟩ : ByteArray).IsValidUTF8 := by
  cases s with
  | string =>
    rw [ofPayload, ← Utf8.decode?_eq_none]
    cases Utf8.decode? p.content <;> simp [eq_comm]
  | _ => simp [ofPayload]

/-! ## Passing over -/

/-- A text whose block is there, up to a position, but holds no UTF-8. -/
def IsBrokenText (s : Scalar) (data : Bytes) (pos next : Nat) : Prop :=
  s = .string ∧ ∃ bytes : Bytes, Delimited.read.readAt data pos = .ok (bytes, next) ∧
    ¬ (⟨bytes.toArray⟩ : ByteArray).IsValidUTF8

section
variable {s : Scalar} {data : Bytes} {pos next : Nat}

/-- Broken texts are the payloads that are framed and then refused. -/
theorem isBrokenText_iff :
    IsBrokenText s data pos next ↔ ∃ p e,
      (Payload.read s.wireType).readAt data pos = .ok (p, next) ∧ s.ofPayload p = .error e := by
  have hblock : (Payload.read .lengthDelimited).readAt data pos = _ :=
    Reader.readAt_map Payload.block data pos
  constructor
  · rintro ⟨rfl, bytes, hbytes, hinvalid⟩
    rw [hbytes] at hblock
    exact ⟨.block bytes, _, hblock, Scalar.ofPayload_eq_error.mpr ⟨rfl, rfl, hinvalid⟩⟩
  · rintro ⟨p, e, hframed, hrefused⟩
    obtain ⟨rfl, rfl, hinvalid⟩ := Scalar.ofPayload_eq_error.mp hrefused
    obtain ⟨⟨bytes, _⟩, hbytes, heq⟩ := Wiregen.map_eq_ok.mp (hblock.symm.trans hframed)
    cases heq
    exact ⟨rfl, bytes, hbytes, hinvalid⟩

/-- A text is read where its block is. -/
theorem Scalar.readAt_string_eq_ok {text : String} :
    (Scalar.read .string).readAt data pos = .ok (text, next) ↔
      Delimited.read.readAt data pos = .ok (Utf8.encode text, next) := by
  have hmeaning : ∀ bytes, ofPayload .string (.block bytes) = .ok text ↔
      Utf8.encode text = bytes := by
    intro bytes
    rw [← Utf8.decode?_eq_some, ofPayload, Payload.content_block]
    cases Utf8.decode? bytes <;> simp
  rw [read_eq, wireType, Payload.read, Reader.map_tryMap, Reader.readAt_tryMap, bind_eq_ok]
  simp only [Wiregen.map_eq_ok]
  constructor
  · rintro ⟨⟨bytes, stop⟩, hbytes, text', htext, heq⟩
    cases heq
    rw [(hmeaning bytes).mp htext]
    exact hbytes
  · exact fun h => ⟨_, h, text, (hmeaning _).mpr rfl, rfl⟩

variable (s data pos)

/-- A scalar is passed over and read, or it is a broken text, or it cannot be framed. -/
theorem skip_cases :
    let skipped := (skip s.wireType.number.toUInt64).readAt data pos
    let read := s.read.readAt data pos
    (∃ v next, skipped = .ok ((), next) ∧ read = .ok (v, next) ∧
      ∀ next, ¬ IsBrokenText s data pos next) ∨
    (∃ next, skipped = .ok ((), next) ∧ read = .error .invalidUtf8 ∧
      ∀ next', IsBrokenText s data pos next' ↔ next = next') ∨
    (∃ e, skipped = .error e ∧ read = .error e ∧ e ≠ .invalidUtf8 ∧
      ∀ next, ¬ IsBrokenText s data pos next) := by
  intro skipped read
  have hskipped : skipped = ((Payload.read s.wireType).readAt data pos).map fun p => ((), p.2) := by
    simp only [skipped, Payload.skip_eq_readFramed, Payload.readFramed_number, Reader.readAt_map]
  have hread : read = (Payload.read s.wireType).readAt data pos >>= fun p =>
      (s.ofPayload p.1).map fun v => (v, p.2) := by
    simp only [read, s.read_eq, Reader.readAt_tryMap]
  simp only [isBrokenText_iff]
  cases hframed : (Payload.read s.wireType).readAt data pos with
  | error e =>
    rw [hframed] at hskipped hread
    have hne : e ≠ .invalidUtf8 := by
      rcases Payload.read_frames _ (Reader.readAt_eq_error.mp hframed) with rfl | rfl <;> decide
    exact .inr (.inr ⟨e, hskipped, hread, hne, by simp⟩)
  | ok framed =>
    obtain ⟨p, next⟩ := framed
    rw [hframed] at hskipped hread
    replace hread : read = (s.ofPayload p).map fun v => (v, next) := hread
    cases hmeaning : s.ofPayload p with
    | ok v =>
      rw [hmeaning] at hread
      exact .inl ⟨v, next, hskipped, hread, by simp [hmeaning]⟩
    | error e =>
      obtain ⟨-, rfl, -⟩ := Scalar.ofPayload_eq_error.mp hmeaning
      rw [hmeaning] at hread
      exact .inr (.inl ⟨next, hskipped, hread, by simp [hmeaning, and_assoc]⟩)

/-- Passing over a scalar of any type and reading it are the same but for what is read: one ends
where the other does, and fails for the reason for which the other does. The one exception are
texts: where a block is there that holds no UTF-8, and nowhere else, reading fails for that,
although it can be passed over. A text that is read is the one whose UTF-8 its block holds. -/
theorem skip_agrees :
    (∀ next, (skip s.wireType.number.toUInt64).readAt data pos = .ok ((), next) ↔
      (∃ v, s.read.readAt data pos = .ok (v, next)) ∨ IsBrokenText s data pos next) ∧
    (∀ e, (skip s.wireType.number.toUInt64).readAt data pos = .error e ↔
      s.read.readAt data pos = .error e ∧ ¬ ∃ next, IsBrokenText s data pos next) ∧
    (s.read.readAt data pos = .error .invalidUtf8 ↔ ∃ next, IsBrokenText s data pos next) ∧
    ∀ text next, (Scalar.read .string).readAt data pos = .ok (text, next) ↔
      Delimited.read.readAt data pos = .ok (Utf8.encode text, next) := by
  have htext : ∀ text next, (Scalar.read .string).readAt data pos = .ok (text, next) ↔
      Delimited.read.readAt data pos = .ok (Utf8.encode text, next) :=
    fun _ _ => Scalar.readAt_string_eq_ok
  rcases skip_cases s data pos with ⟨v, next, hskipped, hread, hsound⟩ |
    ⟨next, hskipped, hread, hbroken⟩ | ⟨e, hskipped, hread, hne, hsound⟩
  · refine ⟨?_, ?_, ?_, htext⟩ <;> simp [hskipped, hread, hsound]
  · refine ⟨?_, ?_, ?_, htext⟩ <;> simp [hskipped, hread, hbroken]
  · refine ⟨?_, ?_, ?_, htext⟩ <;> simp [hskipped, hread, hne, hsound]

example :
    (skip 2).readAt [0x02, 0xC3, 0x28] 0 = .ok ((), 3) ∧
      (Scalar.read .string).readAt [0x02, 0xC3, 0x28] 0 = .error .invalidUtf8 :=
  ⟨rfl, rfl⟩

end

end Wiregen.Wire
