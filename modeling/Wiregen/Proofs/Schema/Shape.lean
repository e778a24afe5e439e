import Wiregen.Proofs.Wire.Tag
import Wiregen.Schema.FieldType

/-!
# The values and wire types of a field

A field is written with one wire type. Lists whose values can be packed are read with a second one
as well, that of the block they are packed in.
-/

namespace Wiregen.Schema

open Wire (WireType)

variable {α : Type}

/-- What describes the values of a field; in a map, those that its keys lead to. -/
def Shape.value : Shape α → α
  | .singular value | .repeated value | .map _ value => value

/-- The wire types a field is read with, the one it is written with first. -/
def Shape.wires (wireType : α → WireType) : Shape α → List WireType
  | .singular value => [wireType value]
  | .repeated element =>
    wireType element :: if (wireType element).packable then [.lengthDelimited] else []
  | .map _ _ => [.lengthDelimited]

/-- No field is read with a wire type twice. -/
theorem Shape.nodup_wires (wireType : α → WireType) (shape : Shape α) :
    (shape.wires wireType).Nodup := by
  cases shape with
  | singular value => simp [wires]
  | map key value => simp [wires]
  | repeated element =>
    by_cases h : (wireType element).packable
    · have hne : wireType element ≠ .lengthDelimited := WireType.packable_iff.mp h
      simp [wires, hne]
    · simp [wires, h]

end Wiregen.Schema
