import Wiregen.Emit.Message
import Wiregen.Failure
import Wiregen.Proofs.Emit.Reported
import Wiregen.Proofs.Naming

/-!
# The code of fields in a row

The code of a message is that of its fields, one behind the other, and each is looked at with the
members of those in front of it (`fieldCodes_cons`). Where the name of the message is that of a type
and of a codec, nothing but its fields can be the end (`messageItems_eq`).
-/

namespace Wiregen.Emit

open Naming (IsTypeName)
open Schema (Shape)
open Target (Ident)

/-! ## Code of fields -/

/-- The code of a field is that of its shape, or a marker alone if its type has no codec. -/
theorem fieldCode_eq_ok {ctx : Context} {owner : String} {field : Schema.Field} {code : FieldCode}
    (h : (fieldCode ctx owner field).outcome = .ok code) :
    (∃ shape, shapeOf field = .ok shape ∧ codeOf ctx field shape = .ok code) ∨
      ∃ type marker, shapeOf field = .error (.failed (.unsupportedFieldType type)) ∧
        { marker := some marker } = code := by
  unfold fieldCode at h
  split at h
  next shape hshape => exact .inl ⟨shape, hshape, h⟩
  next type hshape =>
    obtain ⟨-, -, h⟩ := Reported.bind_eq_ok.mp h
    cases h
    exact .inr ⟨type, _, hshape, rfl⟩
  next => cases h

/-- The code that the rule of a shape gives, under the identifiers of the field's members. -/
inductive IsCodeBy (ctx : Context) (field : Schema.Field) : Shape ValueForm → FieldCode → Prop
  | scalar {s : Wire.Scalar} {ident : Ident} (hident : Naming.fieldIdent? field.name = some ident) :
    IsCodeBy ctx field (.singular (.scalar s))
      (scalarField ctx (docLines ctx field.doc) ident field.number.toUInt32 (.scalar s))
  | message {type codec ident : Ident} (hident : Naming.fieldIdent? field.name = some ident) :
    IsCodeBy ctx field (.singular (.message type codec))
      (messageField ctx (docLines ctx field.doc) ident field.number.toUInt32 (.message type codec))
  | repeated {form : ValueForm} {ident : Ident}
    (hident : Naming.fieldIdent? field.name = some ident) :
    IsCodeBy ctx field (.repeated form)
      (repeatedField ctx (docLines ctx field.doc) ident field.number.toUInt32 form)
  | map {key value : ValueForm} {keys values : Ident}
    (hkeys : Naming.mapKeysIdent? field.name = some keys)
    (hvalues : Naming.mapValuesIdent? field.name = some values) :
    IsCodeBy ctx field (.map key value)
      (mapField ctx (docLines ctx field.doc) keys values field.number.toUInt32 key value)

/-- The code of a shape is what its rule gives. -/
theorem codeOf_isCodeBy {ctx : Context} {field : Schema.Field} {shape : Shape ValueForm}
    {code : FieldCode} (h : codeOf ctx field shape = .ok code) : IsCodeBy ctx field shape code := by
  cases shape with
  | singular form =>
    obtain ⟨ident, hident, h⟩ := bind_eq_ok.mp h
    cases form with
    | scalar s =>
      cases h
      exact .scalar (identifier_eq_ok.mp hident)
    | message type codec =>
      cases h
      exact .message (identifier_eq_ok.mp hident)
  | repeated form =>
    obtain ⟨ident, hident, h⟩ := bind_eq_ok.mp h
    cases h
    exact .repeated (identifier_eq_ok.mp hident)
  | map key value =>
    obtain ⟨keys, hkeys, h⟩ := bind_eq_ok.mp h
    obtain ⟨values, hvalues, h⟩ := bind_eq_ok.mp h
    cases h
    exact .map (identifier_eq_ok.mp hkeys) (identifier_eq_ok.mp hvalues)

/-- The failure of a field that would use a member again. -/
def repeatedMember (owner : String) (field : Schema.Field) (member : String) : Failure :=
  .malformedSchema owner
    ("field " ++ field.name ++ " maps to member " ++ member ++ ", which is already used")

/-- The code of a field none of whose members is among those that there are. -/
def freshCode (ctx : Context) (owner : String) (seen : List Ident) (field : Schema.Field) :
    Reported FieldCode := do
  let code ← fieldCode ctx owner field
  match firstRepeat seen code.idents with
  | some ident => Reported.fail (repeatedMember owner field ident.text)
  | none => return code

/-- A field whose members are new has its code. -/
theorem freshCode_eq_ok {ctx : Context} {owner : String} {seen : List Ident}
    {field : Schema.Field} {code : FieldCode}
    (h : (freshCode ctx owner seen field).outcome = .ok code) :
    (fieldCode ctx owner field).outcome = .ok code := by
  obtain ⟨code', hcode, h⟩ := Reported.bind_eq_ok.mp h
  split at h
  next => cases h
  next =>
    cases h
    exact hcode

/-- The code of fields in a row is that of the first, if its members are new, and of the others. -/
theorem fieldCodes_cons (ctx : Context) (message : Schema.Message) (seen : List Ident)
    (field : Schema.Field) (others : List Schema.Field) :
    fieldCodes ctx message seen (field :: others) =
      freshCode ctx message.fullName seen field >>= fun code =>
        (code :: ·) <$> fieldCodes ctx message (seen ++ code.idents) others := by
  rw [freshCode, bind_assoc, fieldCodes]
  refine congrArg (fieldCode ctx message.fullName field >>= ·) (funext fun code => ?_)
  cases firstRepeat seen code.idents with
  | some ident => rfl
  | none => simp only [pure_bind, map_eq_pure_bind]

/-- The code of fields in a row is that of each. -/
theorem fieldCodes_eq_ok {ctx : Context} {message : Schema.Message} {fields : List Schema.Field} :
    ∀ {seen : List Ident} {codes : List FieldCode},
      (fieldCodes ctx message seen fields).outcome = .ok codes →
        List.Forall₂ (fun field code => (fieldCode ctx message.fullName field).outcome = .ok code)
          fields codes := by
  induction fields with
  | nil =>
    intro seen codes h
    cases h
    exact .nil
  | cons field fields ih =>
    intro seen codes h
    obtain ⟨code, hcode, h⟩ := Reported.bind_eq_ok.mp h
    -- Members of earlier fields may be the end, but they change no code.
    split at h
    next => cases h
    next =>
      obtain ⟨others, hothers, h⟩ := Reported.bind_eq_ok.mp h
      cases h
      exact .cons hcode (ih hothers)

/-- What is the same of a field and of its code, is so of fields and their code in a row. -/
theorem fieldCodes_map {α : Type} {ctx : Context} {message : Schema.Message} {seen : List Ident}
    {fields : List Schema.Field} {codes : List FieldCode} {part : FieldCode → α}
    {whole : Schema.Field → α} (h : (fieldCodes ctx message seen fields).outcome = .ok codes)
    (hpart : ∀ field code, (fieldCode ctx message.fullName field).outcome = .ok code →
      part code = whole field) : codes.map part = fields.map whole := by
  have hcodes := fieldCodes_eq_ok h
  clear h
  induction hcodes with
  | nil => rfl
  | cons hcode _ ih => rw [List.map_cons, List.map_cons, hpart _ _ hcode, ih]

/-- The code of fields does not depend on which other fields the message has. -/
theorem fieldCodes_withFields (ctx : Context) (message : Schema.Message)
    (others : List Schema.Field) (seen : List Ident) (fields : List Schema.Field) :
    fieldCodes ctx { message with fields := others } seen fields =
      fieldCodes ctx message seen fields := by
  induction fields generalizing seen with
  | nil => rfl
  | cons field fields ih => simp only [fieldCodes_cons, ih]

/-! ## Code of messages -/

/-- The items of a message come from the code of its fields. -/
theorem messageItems_eq_ok {ctx : Context} {message : Schema.Message} {items : List Target.Item}
    (h : (messageItems ctx message).outcome = .ok items) : ∃ ident codec codes,
      Naming.messageIdent? message.name = some ident ∧
        Naming.codecIdent? message.name = some codec ∧
        (fieldCodes ctx message [] message.fields).outcome = .ok codes ∧
        itemsOf ctx message ident codec codes = items := by
  obtain ⟨ident, hident, h⟩ := Reported.bind_eq_ok.mp h
  obtain ⟨codec, hcodec, h⟩ := Reported.bind_eq_ok.mp h
  obtain ⟨codes, hcodes, h⟩ := Reported.bind_eq_ok.mp h
  cases h
  exact ⟨ident, codec, codes, identifier_eq_ok.mp hident, identifier_eq_ok.mp hcodec, hcodes, rfl⟩

/-- Messages of one name, if it is that of a type and a codec, have the items that their fields
give. -/
theorem messageItems_eq (ctx : Context) {name : String} (hname : IsTypeName name) :
    ∃ ident codec, ∀ message : Schema.Message, message.name = name →
      messageItems ctx message =
        itemsOf ctx message ident codec <$> fieldCodes ctx message [] message.fields := by
  obtain ⟨ident, hident⟩ := Option.isSome_iff_exists.mp hname.messageIdent?_isSome
  obtain ⟨codec, hcodec⟩ := Option.isSome_iff_exists.mp (Naming.codecIdent?_isSome_iff.mpr hname)
  refine ⟨ident, codec, ?_⟩
  rintro message rfl
  rw [messageItems, identifier_eq_ok.mpr hident, identifier_eq_ok.mpr hcodec]
  rfl

/-! ## Messages of examples -/

/-- A field of one value. -/
def valueField (name : String) (number typeCode : Int32) : Schema.Field :=
  { name, number, typeCode, typeName := none, label := .optional, oneofIndex := none,
    mapEntry := none, doc := none }

/-- A message with the given fields. -/
def orderOf (fields : List Schema.Field) : Schema.Message :=
  { name := "Order", fullName := "shop.Order", fields, nested := [], isMapEntry := false,
    doc := some " An order." }

end Wiregen.Emit
