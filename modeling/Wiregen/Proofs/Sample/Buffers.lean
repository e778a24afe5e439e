import Wiregen.Proofs.Codec.Appending
import Wiregen.Proofs.Sample.Codecs

/-!
# Buffers that messages of the sample are written into

A message of the sample is written behind what a buffer holds, field by field, and the writing halts
at the first map with lists of different lengths, before anything of that map is written
(`encodeTo_appends`). Only outer messages have maps, and they have two.
-/

namespace Wiregen.Sample

open Codec (Element Message Slot Slots encode encodeTo)
open Wire (Bytes)

/-- Whether a message of the sample is no outer message. -/
def isNoOuter (i : Fin catalog.size) : Bool := i.val ≠ 2

/-- The messages of the sample but the outer one have no maps in them. -/
theorem mapFree_catalog : catalog.MapFree isNoOuter := by
  decide

/-- No field of the sample holds outer messages. -/
theorem holdsAmong_catalog :
    ∀ i, ∀ f ∈ catalog.fields i, Codec.holdsAmong isNoOuter f.shape := by
  decide

/-- Messages in messages of the sample are balanced. -/
theorem holdBalanced (i : Fin catalog.size) (m : Message catalog i) : m.HoldBalanced :=
  m.holdBalanced_of_mapFree mapFree_catalog (holdsAmong_catalog i)

/-- The index of middle messages in the catalog. -/
def middleIndex : Fin catalog.size := ⟨3, by decide⟩

/-- An outer message with the given fields. -/
def outerOf (child : Slot catalog (.singular (.message innerIndex)))
    (children : Slot catalog (.repeated (.message innerIndex)))
    (deltas : Slot catalog (.repeated (.scalar .sint64)))
    (names : Slot catalog (.repeated (.scalar .string)))
    (labels : Slot catalog (.map (.scalar .int32) (.scalar .string)))
    (lookup : Slot catalog (.map (.scalar .string) (.message innerIndex)))
    (middle : Slot catalog (.singular (.message middleIndex)))
    (displayName : Slot catalog (.singular (.scalar .string))) : Message catalog (2 : Fin 11) :=
  .cons child (.cons children (.cons deltas (.cons names (.cons labels (.cons lookup
    (.cons middle (.cons displayName .nil)))))))

/-- A message with fields has a first slot and others. -/
theorem exists_cons {f : Codec.Field catalog.size} {fs : List (Codec.Field catalog.size)}
    (slots : Slots catalog (f :: fs)) : ∃ slot others, slots = .cons slot others := by
  cases slots with
  | cons slot others => exact ⟨slot, others, rfl⟩

/-- A message without fields holds nothing. -/
theorem eq_nil (slots : Slots catalog []) : slots = .nil := by
  cases slots
  rfl

/-- An outer message is made of what it holds for its eight fields. -/
theorem exists_outerOf (m : Message catalog (2 : Fin 11)) :
    ∃ child children deltas names labels lookup middle displayName,
      m = outerOf child children deltas names labels lookup middle displayName := by
  obtain ⟨child, m, rfl⟩ := exists_cons m
  obtain ⟨children, m, rfl⟩ := exists_cons m
  obtain ⟨deltas, m, rfl⟩ := exists_cons m
  obtain ⟨names, m, rfl⟩ := exists_cons m
  obtain ⟨labels, m, rfl⟩ := exists_cons m
  obtain ⟨lookup, m, rfl⟩ := exists_cons m
  obtain ⟨middle, m, rfl⟩ := exists_cons m
  obtain ⟨displayName, m, rfl⟩ := exists_cons m
  obtain rfl := eq_nil m
  exact ⟨child, children, deltas, names, labels, lookup, middle, displayName, rfl⟩

/-- A slot of a map holds keys and values. -/
theorem exists_map {k v : Element catalog.size} (slot : Slot catalog (.map k v)) :
    ∃ keys values, slot = .map keys values := by
  cases slot with
  | map keys values => exact ⟨keys, values, rfl⟩

/-! ## Where writing halts -/

/-- A message of the sample is balanced exactly if there is no map in it to halt at. -/
theorem balanced_iff (i : Fin catalog.size) (m : Message catalog i) :
    m.Balanced ↔ m.unevenAt? = none :=
  m.balanced_iff.trans (and_iff_left (holdBalanced i m))

section
variable (child : Slot catalog (.singular (.message innerIndex)))
  (children : Slot catalog (.repeated (.message innerIndex)))
  (deltas : Slot catalog (.repeated (.scalar .sint64)))
  (names : Slot catalog (.repeated (.scalar .string)))
  (labels : Slot catalog (.map (.scalar .int32) (.scalar .string)))
  (lookup : Slot catalog (.map (.scalar .string) (.message innerIndex)))
  (middle : Slot catalog (.singular (.message middleIndex)))
  (displayName : Slot catalog (.singular (.scalar .string)))

/-- Of the fields of an outer message, the fifth and the sixth can be where writing halts. -/
theorem unevenAt?_outerOf :
    (outerOf child children deltas names labels lookup middle displayName).unevenAt? =
      if labels.isEven then if lookup.isEven then none else some 5 else some 4 := by
  have hevens : (outerOf child children deltas names labels lookup middle displayName).evens =
      [true, true, true, true, labels.isEven, lookup.isEven, true, true] := by
    show [child.isEven, children.isEven, deltas.isEven, names.isEven, labels.isEven,
      lookup.isEven, middle.isEven, displayName.isEven] = _
    simp only [Slot.isEven_singular, Slot.isEven_repeated]
  rw [Slots.unevenAt?, hevens]
  cases labels.isEven <;> cases lookup.isEven <;> rfl

/-- An outer message is balanced exactly if the lists of both of its maps are even. -/
theorem balanced_outerOf :
    (outerOf child children deltas names labels lookup middle displayName).Balanced ↔
      labels.isEven ∧ lookup.isEven := by
  rw [balanced_iff (2 : Fin 11), unevenAt?_outerOf]
  cases labels.isEven <;> cases lookup.isEven <;> simp

/-- Where the labels are uneven, the fields in front of them are written. -/
theorem encodeTo_outerOf_labels (h : ¬ labels.isEven) (buffer : Bytes) :
    encodeTo (outerOf child children deltas names labels lookup middle displayName) buffer =
      .halt (buffer ++
        [child.bytes 1, children.bytes 2, deltas.bytes 3, names.bytes 4].flatten) := by
  have hplace := unevenAt?_outerOf child children deltas names labels lookup middle displayName
  rw [if_neg h] at hplace
  exact (Codec.encodeTo_of_unevenAt (holdBalanced (2 : Fin 11) _) hplace).2 buffer

/-- Where only the lookup is uneven, the labels are written as well. -/
theorem encodeTo_outerOf_lookup (hlabels : labels.isEven) (h : ¬ lookup.isEven) (buffer : Bytes) :
    encodeTo (outerOf child children deltas names labels lookup middle displayName) buffer =
      .halt (buffer ++ [child.bytes 1, children.bytes 2, deltas.bytes 3, names.bytes 4,
        labels.bytes 5].flatten) := by
  have hplace := unevenAt?_outerOf child children deltas names labels lookup middle displayName
  rw [if_pos hlabels, if_neg h] at hplace
  exact (Codec.encodeTo_of_unevenAt (holdBalanced (2 : Fin 11) _) hplace).2 buffer

end

/-- A message of the sample is written behind what a buffer holds: the bytes of its fields in their
order, which are its bytes on their own. The writing halts exactly if the lists of a map differ in
length, behind the fields in front of the first such map; for an outer message that is the map of
its labels or, if that is as it should be, that of its lookup. -/
theorem encodeTo_appends :
    (∀ (i : Fin catalog.size) (m : Message catalog i), m.Balanced →
      encode m = some m.fieldBytes.flatten ∧
        ∀ buffer, encodeTo m buffer = .done (buffer ++ m.fieldBytes.flatten)) ∧
    (∀ (i : Fin catalog.size) (m : Message catalog i), ¬ m.Balanced →
      ∃ k, m.unevenAt? = some k ∧ encode m = none ∧
        ∀ buffer, encodeTo m buffer = .halt (buffer ++ (m.fieldBytes.take k).flatten)) ∧
    ∀ m : Message catalog (2 : Fin 11),
      ∃ child children deltas names labelsKeys labelsValues lookupKeys lookupValues middle
          displayName,
        m = outerOf child children deltas names (.map labelsKeys labelsValues)
          (.map lookupKeys lookupValues) middle displayName ∧
        (m.Balanced ↔ labelsKeys.length = labelsValues.length ∧
          lookupKeys.length = lookupValues.length) ∧
        (labelsKeys.length ≠ labelsValues.length →
          ∀ buffer, encodeTo m buffer = .halt (buffer ++
            [child.bytes 1, children.bytes 2, deltas.bytes 3, names.bytes 4].flatten)) ∧
        (labelsKeys.length = labelsValues.length → lookupKeys.length ≠ lookupValues.length →
          ∀ buffer, encodeTo m buffer = .halt (buffer ++
            [child.bytes 1, children.bytes 2, deltas.bytes 3, names.bytes 4,
              (Slot.map labelsKeys labelsValues).bytes 5].flatten)) := by
  refine ⟨fun i m h => Codec.encodeTo_of_balanced h, fun i m h => ?_, fun m => ?_⟩
  · obtain ⟨k, hk⟩ := Option.ne_none_iff_exists'.mp (mt (balanced_iff i m).mpr h)
    exact ⟨k, hk, Codec.encodeTo_of_unevenAt (holdBalanced i m) hk⟩
  · obtain ⟨child, children, deltas, names, labels, lookup, middle, displayName, rfl⟩ :=
      exists_outerOf m
    obtain ⟨labelsKeys, labelsValues, rfl⟩ := exists_map labels
    obtain ⟨lookupKeys, lookupValues, rfl⟩ := exists_map lookup
    refine ⟨child, children, deltas, names, labelsKeys, labelsValues, lookupKeys, lookupValues,
      middle, displayName, rfl, ?_, fun hlabels => ?_, fun hlabels hlookup => ?_⟩
    · rw [balanced_outerOf, Slot.isEven_map, Slot.isEven_map]
    · exact encodeTo_outerOf_labels _ _ _ _ _ _ _ _ (mt Slot.isEven_map.mp hlabels)
    · exact encodeTo_outerOf_lookup _ _ _ _ _ _ _ _ (Slot.isEven_map.mpr hlabels)
        (mt Slot.isEven_map.mp hlookup)

/-- An outer message with a child, a name, a label without a key and a display name. -/
def labelWithoutKey : Message catalog (2 : Fin 11) :=
  outerOf (.present (innerMessage 7 "")) (.repeated .nil) (.repeated .nil)
    (.repeated (.ofList [.scalar "a"])) (.map .nil (.ofList [.scalar "x"])) (.map .nil .nil)
    .absent (.scalar "b")

/-- A message that is written to its end, and one with a value too many among its labels. -/
theorem encodeTo_appends_labelWithoutKey :
    outerMessage.Balanced ∧
    (∃ bytes, encode outerMessage = some bytes ∧
      encodeTo outerMessage [0xFF] = .done ([0xFF] ++ bytes)) ∧
    ¬ labelWithoutKey.Balanced ∧ encode labelWithoutKey = none ∧
    encodeTo labelWithoutKey [0xFF] =
      .halt [0xFF, 0x0A, 0x04, 0x08, 0x07, 0x12, 0x00, 0x22, 0x01, 0x61] := by
  have hbalanced : outerMessage.Balanced := by
    repeat' constructor
  have hplace : labelWithoutKey.unevenAt? = some 4 := rfl
  have huneven : ¬ labelWithoutKey.Balanced := by
    rw [balanced_iff (2 : Fin 11), hplace]
    exact Option.some_ne_none 4
  obtain ⟨hdone, hhalt, -⟩ := encodeTo_appends
  obtain ⟨hbytes, hto⟩ := hdone (2 : Fin 11) outerMessage hbalanced
  obtain ⟨k, hk, hnone, hto'⟩ := hhalt (2 : Fin 11) labelWithoutKey huneven
  obtain rfl := Option.some.inj (hplace.symm.trans hk)
  refine ⟨hbalanced, ⟨_, hbytes, hto _⟩, huneven, hnone, (hto' _).trans ?_⟩
  with_unfolding_all decide

end Wiregen.Sample
