/-!
# Bytes, readers and the ways a read fails

A reader takes the bytes from its position on and gives its value together with the bytes it
leaves. Every reader of the wire format is one of these, so a buffer, a packed block and a map
entry are read by the same code.
-/

namespace Wiregen.Wire

/-- A buffer, or what is left of one. -/
abbrev Bytes := List UInt8

/-- Why wire bytes are refused. -/
inductive DecodeError where
  /-- A read would run past the end of the buffer. -/
  | bufferOverflow
  /-- A varint runs longer than ten bytes. -/
  | invalidVarint
  /-- A key carries a wire type that has no length rule: a group, 6 or 7. -/
  | unknownWireType (wire : UInt64)
  /-- A string field does not hold UTF-8. -/
  | invalidUtf8
  /-- A map entry holds a tag other than those of its key and its value. -/
  | unexpectedMapEntryTag (tag : UInt64)
  deriving DecidableEq, Repr

/-- The text of a decoding error. -/
def DecodeError.message : DecodeError → String
  | .bufferOverflow => "protobuf: buffer overflow"
  | .invalidVarint => "protobuf: invalid varint"
  | .unknownWireType wire => "protobuf: unknown wire type " ++ toString wire.toNat
  | .invalidUtf8 => "protobuf: invalid UTF-8 in string field"
  | .unexpectedMapEntryTag tag =>
    "protobuf: unexpected tag " ++ toString tag.toNat ++ " inside map entry"

/-- Takes the bytes from its position on; gives its value and the bytes it leaves. -/
abbrev Reader (α : Type) := Bytes → Except DecodeError (α × Bytes)

namespace Reader

variable {α β : Type}

/-- The same read with its value changed. -/
def map (f : α → β) (r : Reader α) : Reader β := fun input =>
  (r input).map fun p => (f p.1, p.2)

/-- Reads with `r`, then with the reader its value selects. -/
def andThen (r : Reader α) (next : α → Reader β) : Reader β := fun input =>
  match r input with
  | .ok (a, rest) => next a rest
  | .error e => .error e

/-- The read at a position of a buffer: its value and the position just past it. A position beyond
the end sees no bytes. -/
def readAt (r : Reader α) (data : Bytes) (pos : Nat) : Except DecodeError (α × Nat) :=
  (r (data.drop pos)).map fun p => (p.1, data.length - p.2.length)

end Reader

/-- The next `n` bytes. -/
def take (n : Nat) : Reader Bytes := fun input =>
  if n ≤ input.length then .ok (input.take n, input.drop n) else .error .bufferOverflow

/-! ## Slices -/

/-- The sum of two words, if it is one. A sum that is too large for a word wraps around, to less
than either of the two. -/
def sum? (a b : UInt64) : Option UInt64 := if a + b < a then none else some (a + b)

/-- The bytes of a buffer from one position up to another, if they stand in this order and the
buffer goes up to there. -/
def between? (data : Bytes) (first last : UInt64) : Option Bytes :=
  if first ≤ last ∧ last.toNat ≤ data.length then some ((data.take last.toNat).drop first.toNat)
  else none

/-- The `n` bytes of a buffer at a position, and the position past them. Unlike a reader it tells
a position beyond the end from the end: there even no bytes cannot be taken. Positions are words,
and an end that is not one lies past every buffer. -/
def sliceAt (data : Bytes) (pos n : UInt64) : Except DecodeError (Bytes × UInt64) :=
  match sum? pos n with
  | none => .error .bufferOverflow
  | some last =>
    match between? data pos last with
    | none => .error .bufferOverflow
    | some bytes => .ok (bytes, last)

/-! ## Reading up to the end

A message, a packed block and a map entry are read alike: one step after the other, each leaving
less than it was given, up to the end of the input.
-/

section
variable {σ ε : Type}

/-- Applies the step to the state and what is left of the input until nothing is left. A step that
leaves as much as it was given would never come to the end and is refused as `stuck`. -/
def untilEnd (stuck : ε) (step : σ → Bytes → Except ε (σ × Bytes)) (state : σ) (input : Bytes) :
    Except ε σ :=
  if input = [] then .ok state
  else
    match step state input with
    | .error e => .error e
    | .ok (state, rest) =>
      if rest.length < input.length then untilEnd stuck step state rest else .error stuck
termination_by input.length

/-- At the end the state stays as it is. -/
@[simp] theorem untilEnd_nil (stuck : ε) (step : σ → Bytes → Except ε (σ × Bytes)) (state : σ) :
    untilEnd stuck step state [] = .ok state := by
  rw [untilEnd]
  simp

end

end Wiregen.Wire
