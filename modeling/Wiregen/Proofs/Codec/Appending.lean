import Mathlib.Data.List.Forall2
import Wiregen.Proofs.Codec.Written

/-!
# Writing into buffers

All writing goes into one buffer, but for entries of maps and nested messages, which have buffers of
their own. Whatever the buffer held stays in front, and behind it is what would be written into an
empty one (`encodeTo_eq`).
-/

namespace Wiregen.Codec

open Schema (Shape)
open Wire (Bytes mapKeyNumber mapValueNumber)

variable {c : Catalog}

/-! ## Writers that append -/

namespace Writer

/-- A writer that leaves what a buffer holds and writes the same behind it, as far as it comes. -/
def Appends (writer : Writer) (written : Written) : Prop :=
  ∀ buffer, writer buffer = (Written.done buffer).append written

variable {first second writer : Writer} {written written' : Written}

/-- What such a writer makes of an empty buffer is what it writes. -/
theorem Appends.empty (h : writer.Appends written) : writer [] = written := by
  rw [h []]
  obtain ⟨bytes, halted⟩ := written
  rfl

/-- Bytes go behind what the buffer holds. -/
theorem appends_push (bytes : Bytes) : (push bytes).Appends (.done bytes) := fun _ => rfl

/-- A writer of nothing leaves the buffer as it is. -/
theorem appends_done : Writer.Appends Written.done (.done []) := by
  intro buffer
  rw [Written.append_done, List.append_nil]

/-- A writer that halts at once leaves the buffer as it is. -/
theorem appends_halt : Writer.Appends Written.halt (.halt []) := by
  intro buffer
  show Written.halt buffer = Written.halt (buffer ++ [])
  rw [List.append_nil]

/-- Writing one thing after the other. -/
theorem Appends.andThen (hfirst : first.Appends written) (hsecond : second.Appends written') :
    (first.andThen second).Appends (written.append written') := by
  intro buffer
  obtain ⟨bytes, halted⟩ := written
  rw [Writer.andThen, hfirst buffer]
  cases halted with
  | true => rfl
  | false =>
    show second (buffer ++ bytes) = _
    rw [hsecond (buffer ++ bytes)]
    obtain ⟨bytes', halted'⟩ := written'
    simp [Written.append, Written.done]

/-- Writing several things in a row. -/
theorem appends_sequence {writers : List Writer} {writtens : List Written}
    (h : List.Forall₂ Writer.Appends writers writtens) :
    (sequence writers).Appends (.concat writtens) := by
  induction h with
  | nil => exact appends_done
  | cons hfirst _ ih => exact hfirst.andThen ih

/-- Writing into a buffer of its own first. -/
theorem Appends.block (h : writer.Appends written) (before : Bytes) :
    (writer.block before).Appends (written.block [] before) := by
  intro buffer
  rw [Writer.block, h.empty]
  obtain ⟨bytes, halted⟩ := written
  cases halted with
  | true => exact appends_halt buffer
  | false => simp [Written.block, Written.append, Written.done]

/-- Writing a scalar behind its key. -/
theorem appends_scalar (number : UInt32) (s : Wire.Scalar) (v : s.Carrier) :
    (scalar number s v).Appends (.done (keyBytes number s.wireType ++ s.encode v)) :=
  (appends_push _).andThen (appends_push _)

/-- Writing a message, whose key is there even where the message halts. -/
theorem Appends.message (h : writer.Appends written) (number : UInt32) :
    (writer.message number).Appends (written.block (keyBytes number .lengthDelimited) []) := by
  have hblock : (Written.done (keyBytes number .lengthDelimited)).append (written.block [] []) =
      written.block (keyBytes number .lengthDelimited) [] := by
    obtain ⟨bytes, halted⟩ := written
    cases halted <;> simp [Written.block, Written.append, Written.done, Written.halt]
  rw [← hblock]
  exact (appends_push _).andThen (h.block [])

/-- Entries of a map. -/
theorem appends_entries (number : UInt32) {keys values : List Writer} {ks vs : List Written}
    (hkeys : List.Forall₂ Appends keys ks) (hvalues : List.Forall₂ Appends values vs) :
    List.Forall₂ Appends (keys.zipWith (entry number) values)
      (ks.zipWith (entryWritten number) vs) := by
  induction hkeys generalizing values vs with
  | nil => exact .nil
  | cons hkey _ ih =>
    cases hvalues with
    | nil => exact .nil
    | cons hvalue hvalues => exact .cons ((hkey.andThen hvalue).block _) (ih hvalues)

end Writer

/-! ## Writers of messages -/

mutual

/-- A value is written behind what a buffer holds as it is on its own. -/
theorem Value.writer_appends (number : UInt32) : {e : Element c.size} → (v : Value c e) →
    (v.writer number).Appends (v.written number)
  | .scalar s, .scalar v => Writer.appends_scalar number s v
  | .message _, .message m => (Slots.writer_appends m).message number

/-- Each of several values is written behind what a buffer holds as it is on its own. -/
theorem Values.writers_append (number : UInt32) : {e : Element c.size} → (vs : Values c e) →
    List.Forall₂ Writer.Appends (vs.writers number) (vs.written number)
  | _, .nil => .nil
  | _, .cons v vs => .cons (v.writer_appends number) (vs.writers_append number)

/-- A field is written behind what a buffer holds as it is on its own; a map halts in both cases or
in neither. -/
theorem Slot.writer_appends (number : UInt32) : {shape : Shape (Element c.size)} →
    (slot : Slot c shape) → (slot.writer number).Appends (slot.written number)
  | .singular (.scalar s), .scalar v => Writer.appends_scalar number s v
  | .singular (.message _), .absent => Writer.appends_done
  | .singular (.message _), .present m => (Slots.writer_appends m).message number
  | .repeated _, .repeated vs => Writer.appends_sequence (vs.writers_append number)
  | .map _ _, .map keys values => by
    have hkeys := keys.writers_append mapKeyNumber
    have hvalues := values.writers_append mapValueNumber
    rw [Slot.writer, Slot.written, hkeys.length_eq, hvalues.length_eq]
    split
    next => exact Writer.appends_sequence (Writer.appends_entries number hkeys hvalues)
    next => exact Writer.appends_halt

/-- Fields in a row are written behind what a buffer holds as they are on their own. -/
theorem Slots.writer_appends : {fields : List (Field c.size)} → (slots : Slots c fields) →
    slots.writer.Appends slots.written
  | _, .nil => Writer.appends_done
  | f :: _, .cons slot slots => (slot.writer_appends f.number).andThen slots.writer_appends

end

/-- A message is written behind what a buffer holds as it is written on its own. -/
theorem encodeTo_eq {i : Fin c.size} (m : Message c i) (buffer : Bytes) :
    encodeTo m buffer = (Written.done buffer).append m.written :=
  m.writer_appends buffer

/-- The bytes of a message are what is written of it into an empty buffer. -/
theorem encode_eq {i : Fin c.size} (m : Message c i) :
    encode m = if (encodeTo m []).halted then none else some (encodeTo m []).bytes := by
  rw [encodeTo, m.writer_appends.empty, encode]

/-! ## Where writing halts -/

/-- The bytes of a field: its records in a row. -/
def Slot.bytes (number : UInt32) {shape : Shape (Element c.size)} (slot : Slot c shape) : Bytes :=
  (slot.records number).flatMap Record.bytes

/-- The bytes of each field, in the order of declaration. -/
def Slots.fieldBytes : {fields : List (Field c.size)} → Slots c fields → List Bytes
  | _, .nil => []
  | f :: _, .cons slot slots => slot.bytes f.number :: slots.fieldBytes

/-- The bytes of the fields, one field after the other, are those of all records. -/
theorem Slots.flatten_fieldBytes : {fields : List (Field c.size)} → (slots : Slots c fields) →
    slots.fieldBytes.flatten = slots.records.flatMap Record.bytes
  | _, .nil => rfl
  | f :: _, .cons slot slots => by
    rw [fieldBytes, List.flatten_cons, slots.flatten_fieldBytes, records, List.flatMap_append,
      Slot.bytes]

/-- Whether a slot is no map with lists of different lengths. -/
def Slot.isEven : {shape : Shape (Element c.size)} → Slot c shape → Bool
  | _, .map keys values => keys.length = values.length
  | _, .scalar _ | _, .absent | _, .present _ | _, .repeated _ => true

/-- The lists of a map are even if they have the same length. -/
theorem Slot.isEven_map {k v : Element c.size} {keys : Values c k} {values : Values c v} :
    (Slot.map keys values).isEven ↔ keys.length = values.length :=
  decide_eq_true_iff

@[simp] theorem Slot.isEven_singular {e : Element c.size} (slot : Slot c (.singular e)) :
    slot.isEven = true := by
  cases slot <;> rfl

@[simp] theorem Slot.isEven_repeated {e : Element c.size} (slot : Slot c (.repeated e)) :
    slot.isEven = true := by
  cases slot
  rfl

/-- Which fields of a message are no maps with lists of different lengths. -/
def Slots.evens : {fields : List (Field c.size)} → Slots c fields → List Bool
  | _, .nil => []
  | _, .cons slot slots => slot.isEven :: slots.evens

/-- The place of the first map with lists of different lengths among the fields of a message. -/
def Slots.unevenAt? {fields : List (Field c.size)} (slots : Slots c fields) : Option Nat :=
  slots.evens.findIdx? (!·)

/-- The first uneven map is the first field or the first among the others. -/
theorem Slots.unevenAt?_cons {f : Field c.size} {fields : List (Field c.size)}
    (slot : Slot c f.shape) (slots : Slots c fields) :
    (Slots.cons slot slots).unevenAt? =
      if slot.isEven then slots.unevenAt?.map (· + 1) else some 0 := by
  rw [unevenAt?, evens, List.findIdx?_cons, ← unevenAt?]
  cases slot.isEven <;> rfl

/-- A slot in which all messages are balanced. -/
def Slot.HoldsBalanced : {shape : Shape (Element c.size)} → Slot c shape → Prop
  | _, .map keys values => keys.Balanced ∧ values.Balanced
  | _, .scalar _ | _, .absent => True
  | _, .present m => m.Balanced
  | _, .repeated vs => vs.Balanced

/-- Slots in which all messages are balanced. -/
def Slots.HoldBalanced : {fields : List (Field c.size)} → Slots c fields → Prop
  | _, .nil => True
  | _, .cons slot slots => slot.HoldsBalanced ∧ slots.HoldBalanced

/-- A slot is balanced if it is even and all messages in it are balanced. -/
theorem Slot.balanced_iff {shape : Shape (Element c.size)} (slot : Slot c shape) :
    slot.Balanced ↔ slot.isEven ∧ slot.HoldsBalanced := by
  cases slot <;> simp [Balanced, isEven, HoldsBalanced]

/-- Slots are balanced if none is an uneven map and all that they hold is balanced. -/
theorem Slots.balanced_iff : {fields : List (Field c.size)} → (slots : Slots c fields) →
    (slots.Balanced ↔ slots.unevenAt? = none ∧ slots.HoldBalanced)
  | _, .nil => by simp [Balanced, unevenAt?, evens, HoldBalanced]
  | _, .cons slot slots => by
    rw [Balanced, unevenAt?_cons, HoldBalanced, slot.balanced_iff, slots.balanced_iff]
    by_cases heven : slot.isEven
    · simp [heven, and_left_comm]
    · simp [heven]

/-- Each value is written as one thing. -/
theorem Values.length_written (number : UInt32) : {e : Element c.size} → (vs : Values c e) →
    (vs.written number).length = vs.length
  | _, .nil => rfl
  | _, .cons v vs => by rw [written, List.length_cons, vs.length_written, length]

/-- Of a map with lists of different lengths nothing is written. -/
theorem Slot.written_of_not_isEven {number : UInt32} {shape : Shape (Element c.size)}
    {slot : Slot c shape} (h : ¬ slot.isEven) : slot.written number = .halt [] := by
  cases slot with
  | map keys values =>
    have hlength : keys.length ≠ values.length := by simpa [isEven] using h
    rw [written, Values.length_written, Values.length_written, if_neg hlength]
  | scalar v | absent | present m | repeated vs => exact absurd rfl h

/-- Slots are written as far as to the first map with lists of different lengths. -/
theorem Slots.written_of_unevenAt : {fields : List (Field c.size)} → (slots : Slots c fields) →
    slots.HoldBalanced → {k : Nat} → slots.unevenAt? = some k →
      slots.written = .halt (slots.fieldBytes.take k).flatten
  | _, .nil, _, _, h => nomatch h
  | f :: _, .cons slot slots, hheld, k, h => by
    obtain ⟨hslot, hslots⟩ := hheld
    rw [unevenAt?_cons] at h
    rw [written, fieldBytes]
    by_cases heven : slot.isEven
    · rw [if_pos heven] at h
      obtain ⟨k, hk, rfl⟩ := Option.map_eq_some_iff.mp h
      rw [Slot.written_eq f.number slot (slot.balanced_iff.mpr ⟨heven, hslot⟩),
        slots.written_of_unevenAt hslots hk, List.take_succ_cons, List.flatten_cons]
      rfl
    · rw [if_neg heven] at h
      obtain rfl := Option.some.inj h
      rw [Slot.written_of_not_isEven heven]
      rfl

/-- A balanced message is written to its end: the bytes of its fields, one behind the other. -/
theorem encodeTo_of_balanced {i : Fin c.size} {m : Message c i} (h : m.Balanced) :
    encode m = some m.fieldBytes.flatten ∧
      ∀ buffer, encodeTo m buffer = .done (buffer ++ m.fieldBytes.flatten) := by
  have hwritten : m.written = .done m.fieldBytes.flatten := by
    rw [Slots.written_eq m h, m.flatten_fieldBytes]
  refine ⟨?_, fun buffer => ?_⟩
  · rw [encode, hwritten]
    rfl
  · rw [encodeTo_eq, hwritten, Written.append_done]

/-- A message with a map whose lists differ in length is written as far as to the first such map. -/
theorem encodeTo_of_unevenAt {i : Fin c.size} {m : Message c i} {k : Nat}
    (hheld : m.HoldBalanced) (h : m.unevenAt? = some k) :
    encode m = none ∧
      ∀ buffer, encodeTo m buffer = .halt (buffer ++ (m.fieldBytes.take k).flatten) := by
  have hwritten := m.written_of_unevenAt hheld h
  refine ⟨?_, fun buffer => ?_⟩
  · rw [encode, hwritten]
    rfl
  · rw [encodeTo_eq, hwritten]
    rfl

/-! ## Messages without maps -/

/-- Whether values are no messages but the given ones. -/
def Element.isAmong {n : Nat} (p : Fin n → Bool) : Element n → Bool
  | .scalar _ => true
  | .message i => p i

/-- Whether a field of a shape holds no messages but the given ones. -/
def holdsAmong {n : Nat} (p : Fin n → Bool) : Shape (Element n) → Bool
  | .singular e | .repeated e => e.isAmong p
  | .map k v => k.isAmong p && v.isAmong p

/-- Whether, besides, it is no map. -/
def isPlain {n : Nat} (p : Fin n → Bool) : Shape (Element n) → Bool
  | .singular e | .repeated e => e.isAmong p
  | .map _ _ => false

/-- The given messages have no maps, and no messages in them but such as are given. -/
def Catalog.MapFree (c : Catalog) (p : Fin c.size → Bool) : Prop :=
  ∀ i, p i → ∀ f ∈ c.fields i, isPlain p f.shape

instance (p : Fin c.size → Bool) : Decidable (c.MapFree p) :=
  inferInstanceAs (Decidable (∀ i, p i → ∀ f ∈ c.fields i, isPlain p f.shape))

section
variable {p : Fin c.size → Bool}

mutual

/-- A value is balanced if it is a scalar or a message of a kind without maps. -/
theorem Value.balanced_of_mapFree (hfree : c.MapFree p) : {e : Element c.size} →
    (v : Value c e) → e.isAmong p → v.Balanced
  | .scalar _, .scalar _, _ => trivial
  | .message i, .message m, h => Slots.balanced_of_mapFree hfree m (hfree i h)

/-- Values are balanced if they are scalars or messages of a kind without maps. -/
theorem Values.balanced_of_mapFree (hfree : c.MapFree p) : {e : Element c.size} →
    (vs : Values c e) → e.isAmong p → vs.Balanced
  | _, .nil, _ => trivial
  | _, .cons v vs, h => ⟨v.balanced_of_mapFree hfree h, vs.balanced_of_mapFree hfree h⟩

/-- A slot that is no map is balanced if it holds scalars or messages of a kind without maps. -/
theorem Slot.balanced_of_mapFree (hfree : c.MapFree p) : {shape : Shape (Element c.size)} →
    (slot : Slot c shape) → isPlain p shape → slot.Balanced
  | .singular (.scalar _), .scalar _, _ => trivial
  | .singular (.message _), .absent, _ => trivial
  | .singular (.message i), .present m, h => Slots.balanced_of_mapFree hfree m (hfree i h)
  | .repeated _, .repeated vs, h => vs.balanced_of_mapFree hfree h

/-- Slots of fields that are no maps and hold messages without maps are balanced. -/
theorem Slots.balanced_of_mapFree (hfree : c.MapFree p) : {fields : List (Field c.size)} →
    (slots : Slots c fields) → (∀ f ∈ fields, isPlain p f.shape) → slots.Balanced
  | _, .nil, _ => trivial
  | _, .cons slot slots, h =>
    have hall := List.forall_mem_cons.mp h
    ⟨slot.balanced_of_mapFree hfree hall.1, slots.balanced_of_mapFree hfree hall.2⟩

end

/-- A slot that holds messages without maps holds balanced ones. -/
theorem Slot.holdsBalanced_of_mapFree (hfree : c.MapFree p) {shape : Shape (Element c.size)}
    (slot : Slot c shape) (h : holdsAmong p shape) : slot.HoldsBalanced := by
  cases slot with
  | scalar v | absent => trivial
  | present m => exact Slots.balanced_of_mapFree hfree m (hfree _ h)
  | repeated vs => exact vs.balanced_of_mapFree hfree h
  | map keys values =>
    obtain ⟨hk, hv⟩ := Bool.and_eq_true_iff.mp h
    exact ⟨keys.balanced_of_mapFree hfree hk, values.balanced_of_mapFree hfree hv⟩

/-- What slots hold is balanced if that is scalars or messages of a kind without maps. -/
theorem Slots.holdBalanced_of_mapFree (hfree : c.MapFree p) : {fields : List (Field c.size)} →
    (slots : Slots c fields) → (∀ f ∈ fields, holdsAmong p f.shape) → slots.HoldBalanced
  | _, .nil, _ => trivial
  | _, .cons slot slots, h =>
    have hall := List.forall_mem_cons.mp h
    ⟨slot.holdsBalanced_of_mapFree hfree hall.1, slots.holdBalanced_of_mapFree hfree hall.2⟩

end

end Wiregen.Codec
