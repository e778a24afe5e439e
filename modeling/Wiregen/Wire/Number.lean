import Wiregen.Wire.Basic

/-!
# Numbers as bytes

Numbers stand on the wire as words of a fixed count of bytes, or as varints, in as few bytes as the
number needs. Signed numbers may go through an order that gives those near zero a short varint.
-/

/-! ## Little-endian words

Numbers of a fixed count of bytes, lowest byte first.
-/

namespace Wiregen.Wire.Fixed

/-- The lowest `width` bytes of `n`, lowest first. -/
def encode : (width : Nat) → Nat → Bytes
  | 0, _ => []
  | width + 1, n => n.toUInt8 :: encode width (n / 256)

/-- The number whose bytes these are, lowest first. -/
def value : Bytes → Nat
  | [] => 0
  | b :: rest => b.toNat + 256 * value rest

/-- A number of `width` bytes. -/
def read (width : Nat) : Reader Nat := (take width).map value

/-- A word has as many bytes as it is wide. -/
@[simp] theorem length_encode (width n : Nat) : (encode width n).length = width := by
  induction width generalizing n with
  | zero => rfl
  | succ width ih => simp [encode, ih]

end Wiregen.Wire.Fixed

/-! ## Base-128 numbers

A varint is a number in groups of seven bits, lowest first, one to a byte; every byte but the last
has its high bit set. A reader follows ten bytes and no more, so that what it reads fits a word of
64 bits once the six surplus bits of the tenth byte are dropped.
-/

namespace Wiregen.Wire.Varint

/-- The shortest varint of `n`. -/
def encode (n : Nat) : Bytes :=
  if n < 128 then [n.toUInt8] else (n % 128 + 128).toUInt8 :: encode (n / 128)
termination_by n
decreasing_by omega

/-- The longest varint, in bytes. -/
def maxBytes : Nat := 10

/-- The number at the front of the input, if it ends within `budget` bytes. The budget is looked at
before the next byte is, so a number too long is refused as such even where the input ends. -/
def groups : (budget : Nat) → Reader Nat
  | 0, _ => .error .invalidVarint
  | _ + 1, [] => .error .bufferOverflow
  | budget + 1, b :: rest =>
    if b < 128 then .ok (b.toNat, rest)
    else
      match groups budget rest with
      | .ok (n, rest) => .ok (b.toNat - 128 + 128 * n, rest)
      | .error e => .error e

/-- A varint as a word: bits beyond the sixty-fourth are dropped. -/
def read : Reader UInt64 := (groups maxBytes).map UInt64.ofNat

end Wiregen.Wire.Varint

/-! ## Signed numbers in the order 0, -1, 1, -2, 2, …

A number near zero has a small index in this order whatever its sign, so its varint is short. The
order has every integer once: `atIndex_index` and `index_atIndex`.
-/

namespace Wiregen.Wire.Zigzag

/-- The index of an integer in the order. -/
def index (z : Int) : Nat := if 0 ≤ z then 2 * z.toNat else 2 * (-z).toNat - 1

/-- The integer at an index of the order. -/
def atIndex (n : Nat) : Int := if n % 2 = 0 then (n / 2 : Nat) else -((n / 2 : Nat) + 1 : Int)

/-- Every integer is at its index. -/
theorem atIndex_index (z : Int) : atIndex (index z) = z := by
  unfold atIndex index
  split <;> split <;> omega

/-- Every index is that of its integer. -/
theorem index_atIndex (n : Nat) : index (atIndex n) = n := by
  unfold atIndex index
  split <;> split <;> omega

end Wiregen.Wire.Zigzag
