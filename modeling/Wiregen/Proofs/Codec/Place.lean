import Wiregen.Proofs.Codec.Absorb

/-!
# One field of a message

A field has a place among the fields of its message, and what a message holds there can be set
(`Slots.get`, `Slots.set`). A record with a key of the field goes to that place
(`Slots.absorb_set_of_mem`), and any other record leaves it as it is
(`Slots.absorb_set_of_not_mem`).
-/

namespace Wiregen.Codec

open Wire (DecodeError)

variable {c : Catalog} {fields : List (Field c.size)} {f : Field c.size}

/-- The place of a field among fields in a row. -/
inductive Place {n : Nat} : List (Field n) → Field n → Type where
  | here {f : Field n} {fields : List (Field n)} : Place (f :: fields) f
  | there {f g : Field n} {fields : List (Field n)} (place : Place fields f) : Place (g :: fields) f

/-- A field with a place among fields is one of them. -/
theorem Place.mem {n : Nat} {f : Field n} : {fields : List (Field n)} → Place fields f → f ∈ fields
  | _, .here => List.mem_cons_self
  | _, .there place => List.mem_cons_of_mem _ place.mem

/-- What a message holds, with another slot at a place. -/
def Slots.set : {fields : List (Field c.size)} → Slots c fields → Place fields f → Slot c f.shape →
    Slots c fields
  | _, .cons _ slots, .here, slot => .cons slot slots
  | _, .cons first slots, .there place, slot => .cons first (slots.set place slot)

/-- What a message holds at a place. -/
def Slots.get : {fields : List (Field c.size)} → Slots c fields → Place fields f → Slot c f.shape
  | _, .cons slot _, .here => slot
  | _, .cons _ slots, .there place => slots.get place

/-- To set what is held changes nothing. -/
@[simp] theorem Slots.set_get (slots : Slots c fields) (place : Place fields f) :
    slots.set place (slots.get place) = slots := by
  induction place with
  | here => cases slots; rfl
  | there place ih => cases slots with | cons first slots => rw [get, set, ih]

/-- A default has the default at each place. -/
theorem Slots.set_default (place : Place fields f) :
    (Slots.default fields).set place (.default (c := c) f.shape) = .default fields := by
  induction place with
  | here => rfl
  | there place ih => rw [default, set, ih]

/-- A slot that is set takes in the records of its field in place of what was there. -/
theorem Slots.absorb_set_of_mem (nested : Nested c) (distinct : KeysDistinct fields)
    (place : Place fields f) {r : Record} (h : r.key ∈ f.keys) (slots : Slots c fields)
    (slot : Slot c f.shape) :
    (slots.set place slot).absorb nested r =
      (slot.absorb nested f.number r).map (slots.set place) := by
  induction place with
  | here =>
    cases slots with
    | cons first slots =>
      have hothers := slots.absorb_of_not_mem nested (distinct.cons.2 r.key h)
      rw [set, absorb, hothers]
      cases slot.absorb nested _ r <;> rfl
  | there place ih =>
    cases slots with
    | cons first slots =>
      -- The first slot does not take the record: its keys are not those of a field behind it.
      have hfirst : first.absorb nested _ r = .ok first :=
        first.absorb_of_not_mem nested fun hkey => distinct.cons.2 r.key hkey _ place.mem h
      rw [set, absorb, hfirst, ih distinct.cons.1 h slots slot]
      cases slot.absorb nested _ r <;> rfl

/-- A slot that is set stays as it is where other fields take in their records. -/
theorem Slots.absorb_set_of_not_mem (nested : Nested c) (place : Place fields f) {r : Record}
    (h : r.key ∉ f.keys) (slots : Slots c fields) (slot : Slot c f.shape) :
    (slots.set place slot).absorb nested r =
      (slots.absorb nested r).map fun slots => slots.set place slot := by
  induction place with
  | here =>
    cases slots with
    | cons first slots =>
      have hslot := slot.absorb_of_not_mem nested h
      have hfirst := first.absorb_of_not_mem nested h
      rw [set, absorb, absorb, hslot, hfirst]
      show (slots.absorb nested r >>= fun others => pure (cons slot others)) = _
      cases slots.absorb nested r <;> rfl
  | there place ih =>
    cases slots with
    | cons first slots =>
      rw [set, absorb, absorb, ih h slots slot]
      cases first.absorb nested _ r with
      | error e => rfl
      | ok first' => cases slots.absorb nested r <;> rfl

/-! ## Records in a row -/

/-- Records with keys of one field go to that field's slot, one after the other. -/
theorem Slots.absorbEach_set_of_mem {nested : Nested c} (distinct : KeysDistinct fields)
    (place : Place fields f) {rs : List Record} (h : ∀ r ∈ rs, r.key ∈ f.keys)
    (slots : Slots c fields) (slot : Slot c f.shape) :
    (slots.set place slot).absorbEach nested rs =
      (slot.absorbEach nested f.number rs).map (slots.set place) := by
  induction rs generalizing slot with
  | nil => rfl
  | cons r rs ih =>
    have hr := slots.absorb_set_of_mem nested distinct place (h r List.mem_cons_self) slot
    have hrs := ih fun q hq => h q (List.mem_cons_of_mem r hq)
    rw [absorbEach, List.foldlM_cons, hr, Slot.absorbEach, List.foldlM_cons]
    cases slot.absorb nested f.number r with
    | error e => rfl
    | ok slot' => exact hrs slot'

/-- Records with keys of other fields leave a slot that is set as it is. -/
theorem Slots.absorbEach_set_of_not_mem {nested : Nested c} (place : Place fields f)
    {rs : List Record} (h : ∀ r ∈ rs, r.key ∉ f.keys) (slots : Slots c fields)
    (slot : Slot c f.shape) :
    (slots.set place slot).absorbEach nested rs =
      (slots.absorbEach nested rs).map fun slots => slots.set place slot := by
  induction rs generalizing slots with
  | nil => rfl
  | cons r rs ih =>
    have hr := slots.absorb_set_of_not_mem nested place (h r List.mem_cons_self) slot
    have hrs := ih fun q hq => h q (List.mem_cons_of_mem r hq)
    rw [absorbEach, List.foldlM_cons, hr, absorbEach, List.foldlM_cons]
    cases slots.absorb nested r with
    | error e => rfl
    | ok slots' => exact hrs slots'

end Wiregen.Codec
