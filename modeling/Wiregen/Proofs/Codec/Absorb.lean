import Wiregen.Proofs.Codec.Meaning

/-!
# Records in a row

A slot takes in the records that have a key of its field, in their order, and is untouched by all
others (`Slot.absorbEach_filter`), and the slots of a message do so each on its own
(`Slots.absorbEach_cons_iff`). So rows of records in which every field finds the same records in the
same order make the same message (`Slots.absorbEach_congr`). They need not be refused alike: of two
records that are refused, the first in the row says why.
-/

namespace Wiregen.Codec

open Schema (Shape)
open Wire (Bytes DecodeError Split)

variable {c : Catalog} {nested : Nested c}

/-! ## Slots -/

section
variable {number : UInt32} {shape : Shape (Element c.size)} {slot slot' : Slot c shape}

/-- A slot with records taken in one after the other. -/
def Slot.absorbEach (nested : Nested c) (number : UInt32) {shape : Shape (Element c.size)}
    (slot : Slot c shape) (rs : List Record) : Except DecodeError (Slot c shape) :=
  rs.foldlM (fun slot r => slot.absorb nested number r) slot

/-- A record that is taken in leaves the others to be taken in. -/
theorem Slot.absorbEach_cons {r : Record} (h : slot.absorb nested number r = .ok slot')
    (rs : List Record) :
    slot.absorbEach nested number (r :: rs) = slot'.absorbEach nested number rs := by
  rw [absorbEach, List.foldlM_cons, h]
  rfl

/-- Records behind others are taken in by the slot that these leave. -/
theorem Slot.absorbEach_append (slot : Slot c shape) (rs rs' : List Record) :
    slot.absorbEach nested number (rs ++ rs') =
      (slot.absorbEach nested number rs).bind fun slot => slot.absorbEach nested number rs' :=
  List.foldlM_append

/-- Only the records with a key of its field matter to a slot. -/
theorem Slot.absorbEach_filter (slot : Slot c shape) (rs : List Record) :
    slot.absorbEach nested number (rs.filter (·.key ∈ keysOf number shape)) =
      slot.absorbEach nested number rs := by
  induction rs generalizing slot with
  | nil => rfl
  | cons r rs ih =>
    by_cases hkey : r.key ∈ keysOf number shape
    · rw [List.filter_cons_of_pos (by simpa using hkey), absorbEach, absorbEach, List.foldlM_cons,
        List.foldlM_cons]
      cases slot.absorb nested number r with
      | error e => rfl
      | ok slot' => exact ih slot'
    · have hskip := slot.absorb_of_not_mem nested hkey
      rw [List.filter_cons_of_neg (by simpa using hkey), absorbEach_cons hskip, ih]

/-- Records of other fields leave a slot as it is. -/
theorem Slot.absorbEach_of_not_mem (slot : Slot c shape) {rs : List Record}
    (h : ∀ r ∈ rs, r.key ∉ keysOf number shape) : slot.absorbEach nested number rs = .ok slot := by
  have hnone : rs.filter (·.key ∈ keysOf number shape) = [] :=
    List.filter_eq_nil_iff.mpr fun r hr => by simpa using h r hr
  rw [← absorbEach_filter, hnone]
  rfl

end

/-! ## Messages -/

section
variable {f : Field c.size} {fields : List (Field c.size)}

/-- Slots with records taken in one after the other. -/
def Slots.absorbEach (nested : Nested c) {fields : List (Field c.size)} (slots : Slots c fields)
    (rs : List Record) : Except DecodeError (Slots c fields) :=
  rs.foldlM (Slots.absorb nested) slots

/-- A message without fields takes in all records and stays as it is. -/
theorem Slots.absorbEach_nil (rs : List Record) :
    (Slots.nil : Slots c []).absorbEach nested rs = .ok .nil := by
  induction rs with
  | nil => rfl
  | cons r rs ih => exact ih

/-- Records behind others are taken in by the message that these leave. -/
theorem Slots.absorbEach_append (slots : Slots c fields) (rs rs' : List Record) :
    slots.absorbEach nested (rs ++ rs') =
      (slots.absorbEach nested rs).bind fun slots => slots.absorbEach nested rs' :=
  List.foldlM_append

/-- The first slot and the others take in records each on its own. -/
theorem Slots.absorbEach_cons_iff {slot slot' : Slot c f.shape} {slots slots' : Slots c fields}
    {rs : List Record} :
    (Slots.cons slot slots).absorbEach nested rs = .ok (.cons slot' slots') ↔
      slot.absorbEach nested f.number rs = .ok slot' ∧ slots.absorbEach nested rs = .ok slots' := by
  induction rs generalizing slot slots with
  | nil => simp [absorbEach, Slot.absorbEach, pure, Except.pure]
  | cons r rs ih =>
    simp only [absorbEach, Slot.absorbEach, List.foldlM_cons, absorb]
    cases slot.absorb nested f.number r with
    | error e => simp [bind, Except.bind]
    | ok first =>
      cases slots.absorb nested r with
      | error e => simp [bind, Except.bind]
      | ok others => exact ih

/-- Two rows of records make the same message if every field finds the same records in them. -/
theorem Slots.absorbEach_congr {rs rs' : List Record}
    (h : ∀ f ∈ fields, rs.filter (·.key ∈ f.keys) = rs'.filter (·.key ∈ f.keys))
    {slots slots' : Slots c fields} :
    slots.absorbEach nested rs = .ok slots' ↔ slots.absorbEach nested rs' = .ok slots' := by
  induction fields with
  | nil =>
    cases slots
    rw [absorbEach_nil, absorbEach_nil]
  | cons f fields ih =>
    cases slots with
    | cons slot slots =>
      cases slots' with
      | cons slot' slots' =>
        -- What a slot makes of records depends on those with its keys only, which are the same.
        have hslot : slot.absorbEach nested f.number rs = slot.absorbEach nested f.number rs' := by
          have hfilter := h f List.mem_cons_self
          rw [Field.keys] at hfilter
          rw [← Slot.absorbEach_filter, hfilter, Slot.absorbEach_filter]
        have hslots : slots.absorbEach nested rs = .ok slots' ↔
            slots.absorbEach nested rs' = .ok slots' :=
          ih fun g hg => h g (List.mem_cons_of_mem f hg)
        rw [absorbEach_cons_iff, absorbEach_cons_iff, hslot, hslots]

/-- An input that is whole records is read by taking these in. -/
theorem decodeInto_of_records (distinct : ∀ j, KeysDistinct (c.fields j)) {i : Fin c.size}
    {input : Bytes} {rs : List Record} (h : records input = ⟨rs, none⟩) (m : Message c i) :
    decodeInto i m input = m.absorbEach decode rs := by
  rw [decodeInto_eq distinct, absorbAll, h, Split.fold_whole]
  rfl

/-- Records of no field leave slots as they are. -/
theorem Slots.absorbEach_of_not_mem (slots : Slots c fields) {rs : List Record}
    (h : ∀ r ∈ rs, ∀ f ∈ fields, r.key ∉ f.keys) : slots.absorbEach nested rs = .ok slots := by
  refine (absorbEach_congr fun f hf => ?_).mpr (rfl : slots.absorbEach nested [] = .ok slots)
  exact List.filter_eq_nil_iff.mpr fun r hr => by simpa using h r hr f hf

end

end Wiregen.Codec
