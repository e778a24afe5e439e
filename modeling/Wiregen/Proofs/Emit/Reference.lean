import Mathlib.Data.List.Nodup
import Wiregen.Proofs.Emit.Scope

/-!
# What references are bound to

A field of message type names its message in full, and emitted code refers to the type and codec
that the last segment of this name stands for. Since local names differ, a reference to a message of
the same file is bound to just that one. A reference that leads out of the file is bound to one of
the file's messages all the same, if one has that local name (`isBoundTo_iff`).
-/

namespace Wiregen.Emit

open Schema (Shape)
open Target (Ident Item)

/-! ## Resolved values -/

/-- The name of the message that the values of a field are, if it has one. -/
def valueTypeName? (field : Schema.Field) : Option String :=
  match field.mapEntry with
  | some entry => entry.valueTypeName
  | none => field.typeName

/-- A type and a codec that a type name is resolved to. -/
def ResolvesTo (typeName : String) (type codec : Ident) : Prop :=
  ∃ name, Naming.localName? typeName = some name ∧
    Naming.messageIdent? name = some type ∧ Naming.codecIdent? name = some codec

/-- A value of message type is resolved by the name of its type. -/
theorem ValueForm.resolve_eq_message {field : String} {code : Int32} {typeName : Option String}
    {type codec : Ident} (h : resolve field code typeName = .ok (.message type codec)) :
    ∃ name, typeName = some name ∧ ResolvesTo name type codec := by
  unfold resolve at h
  split at h
  next => cases h
  next => cases h
  next =>
    split at h
    next => cases h
    next name hname =>
      obtain ⟨typeName, rfl, hlocal⟩ := Option.bind_eq_some_iff.mp hname
      obtain ⟨type', htype, h⟩ := bind_eq_ok.mp h
      obtain ⟨codec', hcodec, h⟩ := bind_eq_ok.mp h
      cases h
      exact ⟨typeName, rfl, name, hlocal, identifier_eq_ok.mp htype, identifier_eq_ok.mp hcodec⟩

/-- A field whose values are messages is resolved by the name of their type. -/
theorem shapeOf_value_message {field : Schema.Field} {shape : Shape ValueForm} {type codec : Ident}
    (h : shapeOf field = .ok shape) (hvalue : shape.value = .message type codec) :
    ∃ name, valueTypeName? field = some name ∧ ResolvesTo name type codec := by
  unfold shapeOf at h
  split at h
  next entry hentry =>
    rw [valueTypeName?, hentry]
    obtain ⟨key, -, h⟩ := bind_eq_ok.mp h
    obtain ⟨value, hresolve, h⟩ := bind_eq_ok.mp h
    cases h
    cases hvalue
    exact ValueForm.resolve_eq_message hresolve
  next hentry =>
    rw [valueTypeName?, hentry]
    obtain ⟨value, hresolve, h⟩ := bind_eq_ok.mp h
    have hform : value = .message type codec := by
      cases h
      rw [← hvalue]
      split <;> rfl
    exact ValueForm.resolve_eq_message (hform ▸ hresolve)

/-! ## Bound references -/

/-- The type and the codec are those of a message. -/
def IsBoundTo (type codec : Ident) (target : Schema.Message) : Prop :=
  Naming.messageIdent? target.name = some type ∧ Naming.codecIdent? target.name = some codec

/-- A resolved type name is bound to the message with its last segment as local name. -/
theorem ResolvesTo.isBoundTo_iff_localName {typeName : String} {type codec : Ident}
    (h : ResolvesTo typeName type codec) (target : Schema.Message) :
    IsBoundTo type codec target ↔ Naming.localName? typeName = some target.name := by
  obtain ⟨name, hname, htype, hcodec⟩ := h
  constructor
  · rintro ⟨-, hcodec'⟩
    rw [hname, Naming.codecIdent?_inj hcodec hcodec']
  · intro htarget
    obtain rfl := Option.some_inj.mp (hname.symm.trans htarget)
    exact ⟨htype, hcodec⟩

/-- A resolved type name that is that of a message in full has its local name last. -/
theorem ResolvesTo.localName?_eq {type codec : Ident} {message : Schema.Message}
    (h : ResolvesTo ("." ++ message.fullName) type codec)
    (hfront : ∃ front, "." ++ message.fullName = front ++ "." ++ message.name)
    (hmessage : Naming.IsTypeName message.name) :
    Naming.localName? ("." ++ message.fullName) = some message.name := by
  obtain ⟨name, hname, -⟩ := h
  obtain ⟨front, hfront⟩ := hfront
  rw [hfront] at hname ⊢
  obtain ⟨-, rfl⟩ := (Naming.localName?_append_eq_some hmessage front).mp hname
  exact hname

/-- Where a descriptor is taken over and code is emitted, a field whose values are messages is bound
to a message of the file exactly if it names that message in full, or names none of the messages
that have code and ends with the local name of that one. -/
theorem isBoundTo_iff (ctx : Context) (file : Descriptor.File) {schema : Schema.File}
    (hschema : Schema.ofDescriptor file = .ok schema) {items : List Item}
    (hitems : (fileItems ctx schema).outcome = .ok items) :
    ∀ owner ∈ emittedMessages schema, ∀ field ∈ owner.fields, ∀ shape type codec,
      shapeOf field = .ok shape → shape.value = .message type codec →
        ∃ typeName, valueTypeName? field = some typeName ∧ ∀ target ∈ emittedMessages schema,
          IsBoundTo type codec target ↔ typeName = "." ++ target.fullName ∨
            Naming.localName? typeName = some target.name ∧
              ∀ message ∈ emittedMessages schema, typeName ≠ "." ++ message.fullName := by
  intro owner _ field _ shape type codec hshape hvalue
  obtain ⟨typeName, hname, hresolves⟩ := shapeOf_value_message hshape hvalue
  have htypes := (fileItems_declared hitems).1
  have hlocal : ∀ message ∈ emittedMessages schema, typeName = "." ++ message.fullName →
      Naming.localName? typeName = some message.name := by
    rintro message hmessage rfl
    exact hresolves.localName?_eq
      (Schema.ofDescriptor_fullName hschema _ (List.mem_filter.mp hmessage).1) (htypes _ hmessage)
  refine ⟨typeName, hname, fun target htarget => ?_⟩
  rw [hresolves.isBoundTo_iff_localName]
  constructor
  · intro hbound
    by_cases hown : ∃ message ∈ emittedMessages schema, typeName = "." ++ message.fullName
    · -- The message that is named in full has the local name of the target, so it is the target.
      obtain ⟨message, hmessage, hfull⟩ := hown
      have hsame : message.name = target.name :=
        Option.some_inj.mp ((hlocal message hmessage hfull).symm.trans hbound)
      obtain rfl := List.inj_on_of_nodup_map (localNames_nodup hitems) hmessage htarget hsame
      exact .inl hfull
    · exact .inr ⟨hbound, fun message hmessage hfull => hown ⟨message, hmessage, hfull⟩⟩
  · rintro (hfull | ⟨hbound, -⟩)
    · exact hlocal target htarget hfull
    · exact hbound

/-! ## References that lead out of the file -/

/-- A file with an item, and with a message that refers to an item by the given name. -/
def cartFile (typeName : String) : Descriptor.File :=
  { name := some "shop.proto"
    package := some "shop"
    messages := [
      { name := some "Item" },
      { name := some "Cart"
        fields := [
          { name := some "item", number := some 1, type := some 11, typeName }] }] }

/-- The item of the file. -/
def itemMessage : Schema.Message := ⟨"Item", "shop.Item", [], [], false, none⟩

/-- The field that refers to an item. -/
def itemField (typeName : String) : Schema.Field :=
  ⟨"item", 1, 11, some typeName, .optional, none, none, none⟩

/-- The message with that field. -/
def cartMessage (typeName : String) : Schema.Message :=
  ⟨"Cart", "shop.Cart", [itemField typeName], [], false, none⟩

/-- The schema of the file. -/
def cartSchema (typeName : String) : Schema.File :=
  ⟨"shop.proto", "shop", [itemMessage, cartMessage typeName]⟩

/-- An item of the file's own package is the one that the field is bound to. -/
theorem isBoundTo_own : ∃ schema items,
    Schema.ofDescriptor (cartFile ".shop.Item") = .ok schema ∧
      (fileItems plainContext schema).outcome = .ok items ∧
      IsBoundTo (.plain "Item") (.plain "ItemCodec") itemMessage := by
  have hsome : (fileItems plainContext (cartSchema ".shop.Item")).outcome.toOption.isSome := by
    decide +kernel
  obtain ⟨items, hitems⟩ := toOption_isSome.mp hsome
  have hshape : shapeOf (itemField ".shop.Item") =
      .ok (.singular (.message (.plain "Item") (.plain "ItemCodec"))) := by rfl
  obtain ⟨typeName, hname, hbound⟩ :=
    isBoundTo_iff plainContext (cartFile ".shop.Item") rfl hitems (cartMessage ".shop.Item")
      (.tail _ (.head _)) (itemField ".shop.Item") (.head _) _ _ _ hshape rfl
  cases hname
  exact ⟨_, items, rfl, hitems, (hbound itemMessage (.head _)).mpr (.inl rfl)⟩

/-- An item of another package is taken for the one of the file. -/
theorem isBoundTo_foreign : ∃ schema items,
    Schema.ofDescriptor (cartFile ".other.Item") = .ok schema ∧
      (fileItems plainContext schema).outcome = .ok items ∧
      ∃ owner ∈ emittedMessages schema, ∃ field ∈ owner.fields, ∃ shape type codec,
        shapeOf field = .ok shape ∧ shape.value = .message type codec ∧
          ∃ target ∈ emittedMessages schema, IsBoundTo type codec target ∧
            valueTypeName? field = some ".other.Item" ∧ "." ++ target.fullName = ".shop.Item" := by
  have hsome : (fileItems plainContext (cartSchema ".other.Item")).outcome.toOption.isSome := by
    decide +kernel
  obtain ⟨items, hitems⟩ := toOption_isSome.mp hsome
  exact ⟨cartSchema ".other.Item", items, rfl, hitems,
    cartMessage ".other.Item", .tail _ (.head _), itemField ".other.Item", .head _, _, _, _, rfl,
    rfl, itemMessage, .head _, ⟨rfl, rfl⟩, rfl, rfl⟩

end Wiregen.Emit
