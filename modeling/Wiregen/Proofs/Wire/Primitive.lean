import Wiregen.Proofs.Wire.Slice

/-!
# Primitives that read

All that emitted code reads a buffer with is a `Primitive` at a position. What a primitive gives
depends on the bytes that it moves over and on no others, and what it refuses on the bytes that it
has looked at so far (`Primitive.readAt_local`): so it reads the same wherever these stand, and the
same in a longer buffer, unless the shorter one just ended too soon.
-/

namespace Wiregen.Wire

/-- A read of the runtime. -/
inductive Primitive where
  | key
  | varint
  /-- A value of a scalar type. -/
  | scalar (s : Scalar)
  /-- A block, which carries its length. -/
  | block
  /-- As many bytes as are asked for. -/
  | slice (n : UInt64)
  /-- The payload of a record whose key has these low bits, passed over. -/
  | skip (wire : UInt64)
  deriving DecidableEq, Repr

namespace Primitive

/-- What a primitive reads. -/
@[reducible] def Value : Primitive → Type
  | .key | .varint => UInt64
  | .scalar s => s.Carrier
  | .block | .slice _ => Bytes
  | .skip _ => Unit

/-- A primitive at a position of a buffer: what it reads and the position behind. -/
def readAt : (d : Primitive) → Bytes → Nat → Except DecodeError (d.Value × Nat)
  | .key => readKey.readAt
  | .varint => Varint.read.readAt
  | .scalar s => s.read.readAt
  | .block => Delimited.read.readAt
  | .slice n => fun data pos =>
    (sliceAt data (UInt64.ofNat pos) n).map fun p => (p.1, p.2.toNat)
  | .skip wire => (Wire.skip wire).readAt

/-- The reader that a primitive is at a position within a buffer. -/
def reader : (d : Primitive) → Reader d.Value
  | .key => readKey
  | .varint => Varint.read
  | .scalar s => s.read
  | .block => Delimited.read
  | .slice n => take n.toNat
  | .skip wire => Wire.skip wire

/-- Every primitive is a read at a position, slices too where a length is a word. -/
theorem readAt_eq (d : Primitive) {data : Bytes} {pos : Nat} (hpos : pos ≤ data.length)
    (fits : ∀ n, d = .slice n → data.length < UInt64.size) :
    d.readAt data pos = d.reader.readAt data pos := by
  cases d with
  | slice n => exact sliceAt_eq_readAt (fits n rfl) hpos n
  | _ => rfl

/-- Every primitive reads from its own bytes. -/
theorem reader_looksAtFront (d : Primitive) : d.reader.LooksAtFront := by
  cases d with
  | key | varint => exact Varint.read_looksAtFront
  | scalar s => exact s.read_looksAtFront
  | block => exact Delimited.read_looksAtFront
  | slice n => exact take_looksAtFront n.toNat
  | skip wire =>
    rw [reader, Payload.skip_eq_readFramed]
    exact (Payload.readFramed_looksAtFront wire).map _

/-- Every primitive refuses an input whatever stands behind it, unless that ends too soon. -/
theorem reader_refusesAtFront (d : Primitive) : d.reader.RefusesAtFront := by
  cases d with
  | key | varint => exact Varint.read_refusesAtFront
  | scalar s => exact s.read_refusesAtFront
  | block => exact Delimited.read_refusesAtFront
  | slice n => exact take_refusesAtFront n.toNat
  | skip wire =>
    rw [reader, Payload.skip_eq_readFramed]
    exact (Payload.readFramed_refusesAtFront wire).map _

/-- Only a slice of no bytes does not move on. -/
theorem reader_shortens {d : Primitive} (h : d ≠ .slice 0) : d.reader.Shortens := by
  cases d with
  | key | varint => exact Varint.read_shortens
  | scalar s => exact s.read_shortens
  | block => exact Delimited.read_shortens
  | slice n =>
    refine take_shortens (Nat.pos_of_ne_zero fun hn => h ?_)
    exact congrArg slice (UInt64.toNat_inj.mp hn)
  | skip wire =>
    rw [reader, Payload.skip_eq_readFramed]
    exact (Payload.readFramed_shortens wire).map _

/-- Every primitive that the runtime has reads what stands behind a position and nothing else. With
bytes before its buffer it reads the same as without, moved behind them. What it reads lies between
the position and the end of the buffer, is not empty unless it is a slice of no bytes, and is read
with any bytes behind the buffer as well. And what it refuses for another reason than that the
buffer ends, it refuses for that reason with any bytes behind the buffer. (The positions of slices
are words, so that their buffers are no longer than a word can say.) -/
theorem readAt_local (d : Primitive) (before data behind : Bytes) {pos : Nat}
    (hpos : pos ≤ data.length)
    (fits : ∀ n, d = .slice n → (before ++ data ++ behind).length < UInt64.size) :
    d.readAt (before ++ data) (before.length + pos) =
        (d.readAt data pos).map (fun p => (p.1, before.length + p.2)) ∧
      (∀ a next, d.readAt data pos = .ok (a, next) →
        pos ≤ next ∧ next ≤ data.length ∧ (d ≠ .slice 0 → pos < next) ∧
          d.readAt (data ++ behind) pos = .ok (a, next)) ∧
      ∀ e, d.readAt data pos = .error e → e ≠ .bufferOverflow →
        d.readAt (data ++ behind) pos = .error e := by
  have looks := d.reader_looksAtFront
  have hreader : ∀ (part : Bytes) (start : Nat),
      part.length ≤ (before ++ data ++ behind).length → start ≤ part.length →
      d.readAt part start = d.reader.readAt part start :=
    fun part start hpart hstart =>
      d.readAt_eq hstart fun n hn => Nat.lt_of_le_of_lt hpart (fits n hn)
  rw [hreader data pos (by simp only [List.length_append]; omega) hpos,
    hreader (before ++ data) (before.length + pos) (by simp) (by simpa using hpos),
    hreader (data ++ behind) pos (by simp) (by rw [List.length_append]; omega)]
  refine ⟨looks.keeps.readAt_shift hpos before, fun a next h => ?_, fun e h hne => ?_⟩
  · obtain ⟨hle, hin⟩ := looks.keeps.le_of_readAt hpos h
    exact ⟨hle, hin, fun hd => ((reader_shortens hd).lt_of_readAt h).1,
      looks.readAt_extend hpos h behind⟩
  · exact d.reader_refusesAtFront.readAt_extend hpos h hne behind

/-- A block of one byte that is no text, but would be one with the byte behind the buffer; and a
slice that ends with the buffer. -/
theorem readAt_local_brokenText :
    let data : Bytes := [0x07, 0x01, 0xC3]
    1 ≤ data.length ∧ ([0x80] ++ data ++ [0xA9]).length < UInt64.size ∧
      (Primitive.scalar .string).readAt ([0x80] ++ data) 2 = .error .invalidUtf8 ∧
      (Primitive.scalar .string).readAt (data ++ [0xA9]) 1 = .error .invalidUtf8 ∧
      (Primitive.slice 2).readAt ([0x80] ++ data) 2 = .ok ([0x01, 0xC3], 4) ∧
      (Primitive.slice 2).readAt (data ++ [0xA9]) 1 = .ok ([0x01, 0xC3], 3) := by
  intro data
  have hpos : 1 ≤ data.length := by decide
  have hsize : ([0x80] ++ data ++ [0xA9]).length < UInt64.size := by decide
  have htext := (Primitive.scalar .string).readAt_local [0x80] data [0xA9] hpos nofun
  have hslice := (Primitive.slice 2).readAt_local [0x80] data [0xA9] hpos fun _ _ => hsize
  exact ⟨hpos, hsize, htext.1, htext.2.2 _ rfl nofun, hslice.1, (hslice.2.1 _ _ rfl).2.2.2⟩

end Primitive

end Wiregen.Wire
