import Wiregen.Proofs.Emit.Codes
import Wiregen.Proofs.Schema.OfDescriptor
import Wiregen.Proofs.Schema.Shape
import Wiregen.Proofs.Target.Views

/-!
# The keys that a decoder tells apart

The arms of an emitted decoder stand for the keys of the message's fields: a key for each wire type
that a field is read with (`messageItems_keys`). No two arms stand for the same key exactly if
fields that share a number share no wire type (`decodeKeys_nodup_iff`). That numbers are shared is
nowhere refused, neither where descriptors are taken over nor where code is emitted.
-/

namespace Wiregen.Emit

open Schema (Shape)
open Target (Arm Item armsOf)
open Wire (WireType tag)

/-! ## Keys of fields -/

/-- The wire types that a field is read with; none, for a field that has no code. -/
def wiresOf (field : Schema.Field) : List WireType :=
  match shapeOf field with
  | .ok shape => shape.wires ValueForm.wireType
  | .error _ => []

/-- The keys that a field is read under. -/
def keysOf (field : Schema.Field) : List UInt32 :=
  (wiresOf field).map (tag field.number.toUInt32)

/-- A field with a shape has a key for each wire type that this shape is read with. -/
theorem keysOf_of_shape {field : Schema.Field} {shape : Shape ValueForm}
    (h : shapeOf field = .ok shape) :
    keysOf field = (shape.wires ValueForm.wireType).map (tag field.number.toUInt32) := by
  rw [keysOf, wiresOf, h]

/-- The arms of a field stand for its keys. -/
theorem codeOf_keys {ctx : Context} {field : Schema.Field} {shape : Shape ValueForm}
    {code : FieldCode} (h : codeOf ctx field shape = .ok code) :
    code.arms.map Arm.key = (shape.wires ValueForm.wireType).map (tag field.number.toUInt32) := by
  cases codeOf_isCodeBy h with
  | scalar | message | map => rfl
  | @repeated form ident hident =>
    by_cases hpack : form.wireType.packable
    · simp [repeatedField, Shape.wires, hpack, packedArm, Arm.key]
    · simp [repeatedField, Shape.wires, hpack, Arm.key]

/-- The arms of a field stand for its keys; a field that is left out has neither. -/
theorem fieldCode_keys {ctx : Context} {owner : String} {field : Schema.Field} {code : FieldCode}
    (h : (fieldCode ctx owner field).outcome = .ok code) :
    code.arms.map Arm.key = keysOf field := by
  rcases fieldCode_eq_ok h with ⟨shape, hshape, hcode⟩ | ⟨type, marker, hshape, rfl⟩
  · rw [keysOf_of_shape hshape]
    exact codeOf_keys hcode
  · rw [keysOf, wiresOf, hshape]
    rfl

/-! ## Keys of messages -/

/-- The arms of fields in a row stand for their keys in a row. -/
theorem fieldCodes_keys {ctx : Context} {message : Schema.Message} {seen : List Target.Ident}
    {fields : List Schema.Field} {codes : List FieldCode}
    (h : (fieldCodes ctx message seen fields).outcome = .ok codes) :
    (codes.flatMap (·.arms)).map Arm.key = fields.flatMap keysOf := by
  rw [List.map_flatMap, List.flatMap_def, List.flatMap_def,
    fieldCodes_map h fun field code hcode => fieldCode_keys hcode]

/-- The decoder in the items of a message looks for a key among the arms of its fields. -/
theorem itemsOf_decodeArms (ctx : Context) (message : Schema.Message) (ident codec : Target.Ident)
    (codes : List FieldCode) :
    (itemsOf ctx message ident codec codes).map Item.decodeArms =
      [[], [], codes.flatMap (·.arms)] := by
  simp [itemsOf, Item.decodeArms, encodeFunction, encodeToFunction, decodeFunction, armsOf,
    Target.Stmt.arms, untilEnd, startAt, moveTo]

/-- The decoder of a message looks for the keys of its fields. -/
theorem messageItems_keys {ctx : Context} {message : Schema.Message} {items : List Item}
    (h : (messageItems ctx message).outcome = .ok items) :
    items.map (fun item => item.decodeArms.map Arm.key) =
      [[], [], message.fields.flatMap keysOf] := by
  obtain ⟨ident, codec, codes, -, -, hcodes, rfl⟩ := messageItems_eq_ok h
  have harms := congrArg (List.map (List.map Arm.key))
    (itemsOf_decodeArms ctx message ident codec codes)
  rw [List.map_map] at harms
  rw [← fieldCodes_keys hcodes]
  exact harms

/-! ## Keys that are distinct -/

/-- Fields of which no record is read as one of both: they differ in number, or are read with other
wire types. -/
def Apart (f g : Schema.Field) : Prop := f.number = g.number → ∀ w ∈ wiresOf f, w ∉ wiresOf g

/-- A field that has code is not apart from itself, but its own keys differ. -/
theorem nodup_keysOf {field : Schema.Field} (h : field.InRange) : (keysOf field).Nodup := by
  have hwires : (wiresOf field).Nodup := by
    unfold wiresOf
    split
    next shape _ => exact shape.nodup_wires _
    next => exact List.nodup_nil
  refine List.pairwise_map.mpr (List.Pairwise.imp (fun hne htag => hne ?_) hwires)
  exact (Wire.tag_injective h.toNat_lt h.toNat_lt htag).2

/-- Keys of two fields are different if the fields are apart, and only then. -/
theorem keysOf_ne_iff {f g : Schema.Field} (hf : f.InRange) (hg : g.InRange) :
    (∀ a ∈ keysOf f, ∀ b ∈ keysOf g, a ≠ b) ↔ Apart f g := by
  constructor
  · intro h hnumber w hw hw'
    refine h _ (List.mem_map_of_mem hw) _ (List.mem_map_of_mem hw') ?_
    rw [hnumber]
  · rintro h a ha b hb rfl
    obtain ⟨w, hw, hkey⟩ := List.mem_map.mp ha
    obtain ⟨w', hw', hkey'⟩ := List.mem_map.mp hb
    obtain ⟨hbits, rfl⟩ := Wire.tag_injective hf.toNat_lt hg.toNat_lt (hkey.trans hkey'.symm)
    have hnumber : f.number = g.number := by simpa using congrArg UInt32.toInt32 hbits
    exact h hnumber w hw hw'

/-- No key of the fields occurs twice exactly if any two of them are apart. -/
theorem nodup_flatMap_keysOf {fields : List Schema.Field} (h : ∀ f ∈ fields, f.InRange) :
    (fields.flatMap keysOf).Nodup ↔ fields.Pairwise Apart := by
  rw [List.Nodup, List.pairwise_flatMap]
  constructor
  · rintro ⟨-, hpairs⟩
    exact hpairs.imp_of_mem fun hf hg hne => (keysOf_ne_iff (h _ hf) (h _ hg)).mp hne
  · intro hpairs
    refine ⟨fun f hf => nodup_keysOf (h f hf), ?_⟩
    exact hpairs.imp_of_mem fun hf hg hapart => (keysOf_ne_iff (h _ hf) (h _ hg)).mpr hapart

/-- The arms of the decoder of a message stand for distinct keys exactly if any two fields of the
message are apart. -/
theorem messageItems_nodup_iff {ctx : Context} {message : Schema.Message} {items : List Item}
    (h : (messageItems ctx message).outcome = .ok items)
    (hrange : ∀ f ∈ message.fields, f.InRange) :
    (∀ item ∈ items, (item.decodeArms.map Arm.key).Nodup) ↔ message.fields.Pairwise Apart := by
  rw [← nodup_flatMap_keysOf hrange]
  have hkeys := messageItems_keys h
  constructor
  · intro hnodup
    have hmem : message.fields.flatMap keysOf ∈ items.map fun item => item.decodeArms.map Arm.key :=
      hkeys ▸ by simp
    obtain ⟨item, hitem, heq⟩ := List.mem_map.mp hmem
    exact heq ▸ hnodup item hitem
  · intro hnodup item hitem
    have hmem := List.mem_map_of_mem (f := fun item : Item => item.decodeArms.map Arm.key) hitem
    rw [hkeys] at hmem
    simp only [List.mem_cons, List.not_mem_nil, or_false] at hmem
    rcases hmem with heq | heq | heq
    · rw [heq]; exact List.nodup_nil
    · rw [heq]; exact List.nodup_nil
    · rw [heq]; exact hnodup

/-! ## Keys of files -/

/-- The items of a file are those of its messages, in their order. -/
theorem fileItems_eq_ok {ctx : Context} {file : Schema.File} {items : List Item}
    (h : (fileItems ctx file).outcome = .ok items) :
    ∃ groups, (Reported.each (messageItems ctx) (emittedMessages file)).outcome = .ok groups ∧
      groups.flatten = items := by
  unfold fileItems at h
  dsimp only at h
  split at h
  next => cases h
  next => exact Reported.map_eq_ok.mp h

/-- Where a descriptor is taken over and code is emitted, no two arms of a decoder stand for the
same key exactly if in every message any two fields are apart. -/
theorem decodeKeys_nodup_iff (ctx : Context) (file : Descriptor.File) {schema : Schema.File}
    (hschema : Schema.ofDescriptor file = .ok schema) {items : List Item}
    (hitems : (fileItems ctx schema).outcome = .ok items) :
    (∀ item ∈ items, (item.decodeArms.map Arm.key).Nodup) ↔
      ∀ message ∈ emittedMessages schema, message.fields.Pairwise Apart := by
  obtain ⟨groups, hgroups, rfl⟩ := fileItems_eq_ok hitems
  have hrange := Schema.ofDescriptor_inRange hschema
  rw [← Reported.forall_mem_each hgroups fun message hmessage items h =>
    messageItems_nodup_iff h (hrange message (List.mem_filter.mp hmessage).1)]
  simp only [List.mem_flatten, forall_exists_index, and_imp]
  exact ⟨fun h group hgroup item hitem => h item group hgroup hitem,
    fun h item group hgroup hitem => h group hgroup item hitem⟩

/-! ## Fields that share a number -/

/-- A file with one message, whose fields are a list of numbers and a text of the given number. -/
def listAndText (number : Int32) : Descriptor.File :=
  { messages := [{
      name := some "M"
      fields := [
        { name := some "ids", number := some 1, type := some 4, label := some 3 },
        { name := some "name", number := some number, type := some 9 }]
      nested := [] }] }

/-- Where code of the examples finds the runtime. -/
def plainContext : Context := ⟨.ofNames ["runtime"], false⟩

/-- The items of a file, if its descriptor is taken over and code is emitted. -/
def emitted? (ctx : Context) (file : Descriptor.File) : Option (List Item) :=
  (Schema.ofDescriptor file).toOption.bind fun schema => (fileItems ctx schema).outcome.toOption

/-- Items that are there come from a schema that is accepted and whose code is emitted. -/
theorem emitted?_eq_some {ctx : Context} {file : Descriptor.File} {items : List Item}
    (h : emitted? ctx file = some items) : ∃ schema, Schema.ofDescriptor file = .ok schema ∧
      (fileItems ctx schema).outcome = .ok items := by
  obtain ⟨schema, hschema, hitems⟩ := Option.bind_eq_some_iff.mp h
  exact ⟨schema, toOption_eq_some.mp hschema, toOption_eq_some.mp hitems⟩

/-- A list of numbers and a text that have numbers of their own are told apart. -/
theorem decodeKeys_listAndText_two : ∃ schema items,
    Schema.ofDescriptor (listAndText 2) = .ok schema ∧
      (fileItems plainContext schema).outcome = .ok items ∧
      ((∀ item ∈ items, (item.decodeArms.map Arm.key).Nodup) ↔
        ∀ message ∈ emittedMessages schema, message.fields.Pairwise Apart) := by
  have hsome : (emitted? plainContext (listAndText 2)).isSome := by decide +kernel
  obtain ⟨items, h⟩ := Option.isSome_iff_exists.mp hsome
  obtain ⟨schema, hschema, hitems⟩ := emitted?_eq_some h
  exact ⟨schema, items, hschema, hitems, decodeKeys_nodup_iff _ _ hschema hitems⟩

/-- A list of numbers and a text with the same number are accepted, and a packed block of the one
has the key of the other. -/
theorem decodeKeys_listAndText_one : ∃ schema items,
    Schema.ofDescriptor (listAndText 1) = .ok schema ∧
      (fileItems plainContext schema).outcome = .ok items ∧
      ∃ item ∈ items, ¬ (item.decodeArms.map Arm.key).Nodup := by
  have hkeys : (emitted? plainContext (listAndText 1)).any (fun items =>
      items.any fun item => !decide (item.decodeArms.map Arm.key).Nodup) = true := by
    decide +kernel
  obtain ⟨items, h, hany⟩ := (Option.any_eq_true _ _).mp hkeys
  obtain ⟨schema, hschema, hitems⟩ := emitted?_eq_some h
  obtain ⟨item, hitem, hclash⟩ := List.any_eq_true.mp hany
  refine ⟨schema, items, hschema, hitems, item, hitem, ?_⟩
  simpa using hclash

end Wiregen.Emit
