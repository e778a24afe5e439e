import Wiregen.Proofs.Codec.Meaning

/-!
# Why a message is refused

A record is taken in or refused for what is in it alone, whatever the message held before
(`Slots.failure?_absorb`). So the first record that is refused says why the message is, and a record
that cannot be framed does if none before it is refused (`failure?_absorbAll`).
-/

namespace Wiregen.Codec

open Schema (Shape)
open Wire (Bytes DecodeError Payload Split failure? split)

variable {c : Catalog} (nested : Nested c)

/-- Why fields refuse a record, if they do. -/
def refusal? (fields : List (Field c.size)) (r : Record) : Option DecodeError :=
  failure? ((Slots.default fields).absorb nested r)

/-- The first payload of a packed block that stands for no value says why the block is refused. -/
theorem Values.failure?_pushBlock {e : Element c.size} (values : Values c e) (block : Bytes) :
    let s := split (Payload.read e.wireType) (Payload.read_shortens _) block
    failure? (values.pushBlock nested block) =
      (s.items.findSome? fun p => failure? (Value.ofPayload nested e p)).or s.broken := by
  refine Split.failure?_fold (fun values p => ?_) _ values
  exact Wire.failure?_map _ _

/-- Why a slot refuses a record is the same for all it may hold. -/
theorem Slot.failure?_absorb {number : UInt32} {r : Record} {shape : Shape (Element c.size)}
    (slot slot' : Slot c shape) :
    failure? (slot.absorb nested number r) = failure? (slot'.absorb nested number r) := by
  cases slot with
  | scalar v | absent | present m =>
    cases slot' <;> simp only [absorb, apply_ite failure?, Wire.failure?_map, Wire.failure?_ok]
  | repeated values =>
    cases slot' with
    | repeated values' =>
      simp only [absorb, apply_ite failure?, Wire.failure?_map, Wire.failure?_ok,
        Values.failure?_pushBlock]
  | map keys values =>
    cases slot' with
    | map keys' values' =>
      simp only [absorb, apply_ite failure?, Wire.failure?_map, Wire.failure?_ok]

/-- Why fields refuse a record is the same for all they may hold. -/
theorem Slots.failure?_absorb {fields : List (Field c.size)} (slots : Slots c fields) (r : Record) :
    failure? (slots.absorb nested r) = refusal? nested fields r := by
  induction fields with
  | nil => cases slots; rfl
  | cons f fields ih =>
    have hcons : ∀ (slot : Slot c f.shape) (slots : Slots c fields),
        failure? ((Slots.cons slot slots).absorb nested r) =
          (failure? (slot.absorb nested f.number r)).or (refusal? nested fields r) := by
      intro slot slots
      refine Wire.failure?_bind (fun slot => ?_) _
      rw [← ih slots]
      exact Wire.failure?_map (slots.absorb nested r) (Slots.cons slot)
    cases slots with
    | cons slot slots =>
      rw [hcons, Slot.failure?_absorb nested slot (.default f.shape)]
      exact (hcons _ _).symm

/-- The first record that is refused says why the input is, and then the one that is broken. -/
theorem failure?_absorbAll {i : Fin c.size} (m : Message c i) (input : Bytes) :
    failure? (absorbAll nested m input) =
      ((records input).items.findSome? (refusal? nested (c.fields i))).or (records input).broken :=
  Split.failure?_fold (fun m r => m.failure?_absorb nested r) _ m

end Wiregen.Codec
