import Wiregen.Proofs.Emit.Keys
import Wiregen.Proofs.Schema.WellFormed

/-!
# The types that a file declares

Every message that a descriptor declares, at any depth, becomes its type, its codec and the
functions of the codec; a map entry becomes nothing, but messages declared in one are like any other
(`fileItems_structs`). The members of a type are those of the fields of the message, in their order:
none for a field that is left out, two for a map and one for any other.
-/

namespace Wiregen.Emit

open Schema (Declaration FieldType IsKeyValue Shape declarations entryOf?)
open Target (Ident Item)

/-! ## Members of fields -/

/-- The names of the members that a field of a descriptor becomes. A field is left out if its type
has no codec and a map field if its keys or its values have none. -/
inductive HasMembers (file : Descriptor.File) (f : Descriptor.Field) : List String → Prop
  | omitted (hentry : entryOf? file f = none) (htype : FieldType.ofCode? f.typeCode = none) :
    HasMembers file f []
  | single {ident : Ident} (hentry : entryOf? file f = none)
    (htype : FieldType.ofCode? f.typeCode ≠ none)
    (hident : Naming.fieldIdent? f.nameText = some ident) : HasMembers file f [ident.text]
  | omittedMap {entry : Descriptor.Message} {key value : Descriptor.Field}
    (hentry : entryOf? file f = some entry) (hpair : IsKeyValue entry key value)
    (htype : FieldType.ofCode? key.typeCode = none ∨ FieldType.ofCode? value.typeCode = none) :
    HasMembers file f []
  | map {entry : Descriptor.Message} {key value : Descriptor.Field} {keys values : Ident}
    (hentry : entryOf? file f = some entry) (hpair : IsKeyValue entry key value)
    (hkey : FieldType.ofCode? key.typeCode ≠ none)
    (hvalue : FieldType.ofCode? value.typeCode ≠ none)
    (hkeys : Naming.mapKeysIdent? f.nameText = some keys)
    (hvalues : Naming.mapValuesIdent? f.nameText = some values) :
    HasMembers file f [keys.text, values.text]

/-- Items that are the code of a declared message: its type with the members of its fields, its
codec's type, and the functions of the codec. -/
def IsCodeOf (file : Descriptor.File) (d : Declaration) (items : List Item) : Prop :=
  ∃ type codec members, Naming.messageIdent? d.message.nameText = some type ∧
    Naming.codecIdent? d.message.nameText = some codec ∧
    List.Forall₂ (HasMembers file) d.message.fields members ∧
    items.map Item.struct? = [some (type.text, members.flatten), some (codec.text, []), none]

/-! ## Types with a codec -/

/-- A type that is resolved has a codec. -/
theorem ofCode?_ne_none_of_resolve {name : String} {code : Int32} {typeName : Option String}
    {form : ValueForm} (h : ValueForm.resolve name code typeName = .ok form) :
    FieldType.ofCode? code ≠ none := by
  intro hnone
  rw [ValueForm.resolve, FieldType.ofCode, hnone] at h
  cases h

/-- The end at a name that has no identifier is no failure. -/
theorem identifier_ne_failed {α : Type} {name : String} {x : Option α} {failure : Failure} :
    identifier name x ≠ .error (.failed failure) := by
  cases x with
  | none => exact fun h => nomatch h
  | some _ => exact fun h => nomatch h

/-- A type that is refused as one without a codec has none. -/
theorem ofCode?_eq_none_of_resolve {name : String} {code code' : Int32} {typeName : Option String}
    (h : ValueForm.resolve name code typeName = .error (.failed (.unsupportedFieldType code'))) :
    FieldType.ofCode? code = none := by
  cases htype : FieldType.ofCode? code with
  | none => rfl
  | some type =>
    rw [ValueForm.resolve, FieldType.ofCode, htype] at h
    cases type with
    | scalar s => cases h
    | message =>
      dsimp only at h
      split at h
      next => cases h
      next =>
        rcases bind_eq_error.mp h with h | ⟨type, -, h⟩
        · exact absurd h identifier_ne_failed
        · rcases bind_eq_error.mp h with h | ⟨codec, -, h⟩
          · exact absurd h identifier_ne_failed
          · cases h

/-- A field of one value or of a list has a shape if its type has a codec, and is left out if
not. -/
theorem shapeOf_value {field : Schema.Field} (hnone : field.mapEntry = none) :
    (∀ shape, shapeOf field = .ok shape → FieldType.ofCode? field.typeCode ≠ none ∧
      ∃ form, shape = .singular form ∨ shape = .repeated form) ∧
    ∀ code, shapeOf field = .error (.failed (.unsupportedFieldType code)) →
      FieldType.ofCode? field.typeCode = none := by
  unfold shapeOf
  rw [hnone]
  constructor
  · intro shape h
    obtain ⟨form, hform, h⟩ := bind_eq_ok.mp h
    refine ⟨ofCode?_ne_none_of_resolve hform, form, ?_⟩
    cases h
    by_cases hlabel : field.label = .repeated
    · exact .inr (if_pos hlabel)
    · exact .inl (if_neg hlabel)
  · intro code h
    rcases bind_eq_error.mp h with h | ⟨form, -, h⟩
    · exact ofCode?_eq_none_of_resolve h
    · cases h

/-- A map field has a shape if its keys and its values have codecs, and is left out if one has
none. -/
theorem shapeOf_map {field : Schema.Field} {entry : Schema.MapEntry}
    (hsome : field.mapEntry = some entry) :
    (∀ shape, shapeOf field = .ok shape → FieldType.ofCode? entry.keyType ≠ none ∧
      FieldType.ofCode? entry.valueType ≠ none ∧ ∃ key value, shape = .map key value) ∧
    ∀ code, shapeOf field = .error (.failed (.unsupportedFieldType code)) →
      FieldType.ofCode? entry.keyType = none ∨ FieldType.ofCode? entry.valueType = none := by
  unfold shapeOf
  rw [hsome]
  constructor
  · intro shape h
    obtain ⟨key, hkey, h⟩ := bind_eq_ok.mp h
    obtain ⟨value, hvalue, h⟩ := bind_eq_ok.mp h
    cases h
    exact ⟨ofCode?_ne_none_of_resolve hkey, ofCode?_ne_none_of_resolve hvalue, key, value, rfl⟩
  · intro code h
    rcases bind_eq_error.mp h with h | ⟨key, -, h⟩
    · exact .inl (ofCode?_eq_none_of_resolve h)
    · rcases bind_eq_error.mp h with h | ⟨value, -, h⟩
      · exact .inr (ofCode?_eq_none_of_resolve h)
      · cases h

/-! ## Members of the code of a field -/

/-- The members of the code of a field are called like the identifiers that its shape asks for. -/
theorem codeOf_members {ctx : Context} {field : Schema.Field} {shape : Shape ValueForm}
    {code : FieldCode} (h : codeOf ctx field shape = .ok code) :
    match shape with
    | .singular _ | .repeated _ => ∃ ident, Naming.fieldIdent? field.name = some ident ∧
        code.members.map (·.name) = [ident.text]
    | .map _ _ => ∃ keys values, Naming.mapKeysIdent? field.name = some keys ∧
        Naming.mapValuesIdent? field.name = some values ∧
        code.members.map (·.name) = [keys.text, values.text] := by
  cases codeOf_isCodeBy h with
  | scalar hident | message hident | repeated hident => exact ⟨_, hident, rfl⟩
  | map hkeys hvalues => exact ⟨_, _, hkeys, hvalues, rfl⟩

/-- The code of a field that was taken over has the members of the field. -/
theorem fieldCode_members {ctx : Context} {owner : String} {file : Descriptor.File}
    {f : Descriptor.Field} {field : Schema.Field} {code : FieldCode} (hfrom : field.IsFrom file f)
    (h : (fieldCode ctx owner field).outcome = .ok code) :
    HasMembers file f (code.members.map (·.name)) := by
  cases hentry : entryOf? file f with
  | none =>
    have hshapes := shapeOf_value (hfrom.mapEntry_none hentry)
    rw [hfrom.typeCode_eq] at hshapes
    rcases fieldCode_eq_ok h with ⟨shape, hshape, hcode⟩ | ⟨type, marker, hshape, rfl⟩
    · obtain ⟨htype, form, rfl | rfl⟩ := hshapes.1 shape hshape
      all_goals
        obtain ⟨ident, hident, hmembers⟩ := codeOf_members hcode
        rw [hmembers]
        exact .single hentry htype (hfrom.name_eq ▸ hident)
    · exact .omitted hentry (hshapes.2 type hshape)
  | some entry =>
    obtain ⟨key, value, hpair, htypes⟩ := hfrom.mapEntry_some entry hentry
    have hshapes := shapeOf_map htypes
    rcases fieldCode_eq_ok h with ⟨shape, hshape, hcode⟩ | ⟨type, marker, hshape, rfl⟩
    · obtain ⟨hkey, hvalue, keyForm, valueForm, rfl⟩ := hshapes.1 shape hshape
      obtain ⟨keys, values, hkeys, hvalues, hmembers⟩ := codeOf_members hcode
      rw [hmembers]
      exact .map hentry hpair hkey hvalue (hfrom.name_eq ▸ hkeys) (hfrom.name_eq ▸ hvalues)
    · exact .omittedMap hentry hpair (hshapes.2 type hshape)

/-! ## Code of messages -/

/-- Elements are related through those of a list between them. -/
theorem forall₂_comp {α β γ : Type} {R : α → β → Prop} {S : β → γ → Prop} :
    ∀ {as : List α} {bs : List β} {cs : List γ}, List.Forall₂ R as bs → List.Forall₂ S bs cs →
      List.Forall₂ (fun a c => ∃ b, R a b ∧ S b c) as cs
  | _, _, _, .nil, .nil => .nil
  | _, _, _, .cons h hs, .cons h' hs' => .cons ⟨_, h, h'⟩ (forall₂_comp hs hs')

/-- The items of a message that was taken over are the code of the declared one. -/
theorem messageItems_isCodeOf {ctx : Context} {file : Descriptor.File} {d : Declaration}
    {message : Schema.Message} {items : List Item} (hfrom : message.IsFrom file d)
    (h : (messageItems ctx message).outcome = .ok items) : IsCodeOf file d items := by
  obtain ⟨ident, codec, codes, hident, hcodec, hcodes, rfl⟩ := messageItems_eq_ok h
  rw [hfrom.name_eq] at hident hcodec
  have hmembers : List.Forall₂ (HasMembers file) d.message.fields
      (codes.map fun code => code.members.map (·.name)) := by
    refine List.forall₂_map_right_iff.mpr ?_
    refine (forall₂_comp hfrom.fields (fieldCodes_eq_ok hcodes)).imp fun f code h => ?_
    obtain ⟨field, hfield, hcode⟩ := h
    exact fieldCode_members hfield hcode
  refine ⟨ident, codec, _, hident, hcodec, hmembers, ?_⟩
  simp [itemsOf, Item.struct?, List.flatMap_def, List.map_flatten, Function.comp_def]

/-! ## Code of files -/

/-- Where a descriptor is taken over and code is emitted, the items are those of the declared
messages that are no map entries, each once, and each before those declared in it. -/
theorem fileItems_structs (ctx : Context) (file : Descriptor.File) {schema : Schema.File}
    (hschema : Schema.ofDescriptor file = .ok schema) {items : List Item}
    (hitems : (fileItems ctx schema).outcome = .ok items) :
    ∃ groups, List.Forall₂ (IsCodeOf file)
        ((declarations file).filter (!·.message.isMapEntry)) groups ∧ groups.flatten = items := by
  obtain ⟨groups, hgroups, hflatten⟩ := fileItems_eq_ok hitems
  have hemitted : List.Forall₂ (Schema.Message.IsFrom file)
      ((declarations file).filter (!·.message.isMapEntry)) (emittedMessages schema) := by
    refine List.rel_filter (fun d m hm => ?_) (Schema.ofDescriptor_isFrom hschema)
    show (!d.message.isMapEntry) = true ↔ (!m.isMapEntry) = true
    rw [hm.isMapEntry_eq]
  refine ⟨groups, ?_, hflatten⟩
  refine (forall₂_comp hemitted (Reported.each_eq_ok_iff.mp hgroups)).imp fun d group h => ?_
  obtain ⟨message, hmessage, hgroup⟩ := h
  exact messageItems_isCodeOf hmessage hgroup

/-! ## A message in a map entry -/

/-- A file with a message that has a map, whose entry has a message declared in it, and a group. -/
def countsFile : Descriptor.File :=
  { package := some "shop"
    messages := [{
      name := some "Stock"
      fields := [
        { name := some "item_counts", number := some 1, type := some 11, label := some 3,
          typeName := some ".shop.Stock.ItemCountsEntry" },
        { name := some "old", number := some 2, type := some 10 },
        { name := some "shelf_id", number := some 3, type := some 4 }]
      nested := [
        { name := some "ItemCountsEntry"
          fields := [
            { name := some "key", number := some 1, type := some 9 },
            { name := some "value", number := some 2, type := some 13 }]
          nested := [{ name := some "Note" }]
          mapEntry := some true },
        { name := some "Shelf" }] }] }

/-- The entry has no type, the message in it has one, and so has that declared behind it. -/
theorem fileItems_structs_counts : ∃ schema items,
    Schema.ofDescriptor countsFile = .ok schema ∧
      (fileItems plainContext schema).outcome = .ok items ∧
      items.filterMap Item.struct? =
        [("Stock", ["itemCountsKeys", "itemCountsValues", "shelfId"]), ("StockCodec", []),
          ("Note", []), ("NoteCodec", []), ("Shelf", []), ("ShelfCodec", [])] ∧
      ∃ groups, List.Forall₂ (IsCodeOf countsFile)
        ((declarations countsFile).filter (!·.message.isMapEntry)) groups ∧
          groups.flatten = items := by
  have hstructs : (emitted? plainContext countsFile).any (fun items =>
      items.filterMap Item.struct? =
        [("Stock", ["itemCountsKeys", "itemCountsValues", "shelfId"]), ("StockCodec", []),
          ("Note", []), ("NoteCodec", []), ("Shelf", []), ("ShelfCodec", [])]) = true := by
    decide +kernel
  obtain ⟨items, h, hitems⟩ := (Option.any_eq_true _ _).mp hstructs
  obtain ⟨schema, hschema, hok⟩ := emitted?_eq_some h
  exact ⟨schema, items, hschema, hok, of_decide_eq_true hitems,
    fileItems_structs plainContext countsFile hschema hok⟩

end Wiregen.Emit
