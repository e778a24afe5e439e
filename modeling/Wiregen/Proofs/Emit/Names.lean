import Wiregen.Emit.Unit
import Wiregen.Failure
import Wiregen.Proofs.Emit.Reported
import Wiregen.Proofs.Naming

/-!
# Names that code depends on

No code is made, and no failure named, where a name is needed that no identifier can be made of. The
names in question are those of messages, of fields that have code, and of the messages that these
refer to. Whether work ends at a name hinges on them (`HingesOn`): it does not if all of them will
do, and it succeeds only if they do. That goes from the steps over to the whole, up to the unit of a
file (`fileUnit_hingesOn`).
-/

namespace Wiregen.Emit

open Naming (IsTypeName)
open Schema (FieldType Shape)

variable {α β : Type} {p q : Prop}

/-! ## Work that hinges on names -/

/-- Work that ends at a name that no identifier can be made of. -/
def EndsAtName (work : Except Halt α) : Prop := ∃ name, work = .error (.notAnIdentifier name)

@[simp] theorem not_endsAtName_ok (a : α) : ¬ EndsAtName (.ok a : Except Halt α) := by
  simp [EndsAtName]

@[simp] theorem not_endsAtName_pure (a : α) : ¬ EndsAtName (pure a : Except Halt α) :=
  not_endsAtName_ok a

@[simp] theorem endsAtName_error (halt : Halt) :
    EndsAtName (.error halt : Except Halt α) ↔ ∃ name, halt = .notAnIdentifier name := by
  simp [EndsAtName]

@[simp] theorem endsAtName_identifier (name : String) (ident : Option α) :
    EndsAtName (identifier name ident) ↔ ident = none := by
  cases ident <;> simp [EndsAtName, identifier]

/-- Work in two steps ends at a name in the one or in the other. -/
@[simp] theorem endsAtName_bind (work : Except Halt α) (next : α → Except Halt β) :
    EndsAtName (work >>= next) ↔ EndsAtName work ∨ ∃ a, work = .ok a ∧ EndsAtName (next a) := by
  cases work <;> simp [EndsAtName, bind, Except.bind]

@[simp] theorem endsAtName_map (f : α → β) (work : Except Halt α) :
    EndsAtName (f <$> work) ↔ EndsAtName work := by
  cases work <;> simp [EndsAtName, Functor.map, Except.map]

/-- Work that does not end at a name where the condition holds, and that succeeds only there. -/
structure HingesOn (p : Prop) (work : Except Halt α) : Prop where
  not_endsAtName : p → ¬ EndsAtName work
  of_ok : ∀ a, work = .ok a → p

namespace HingesOn

/-- Work hinges on what says the same as a condition that it hinges on. -/
theorem congr {work : Except Halt α} (h : HingesOn p work) (hpq : p ↔ q) : HingesOn q work :=
  propext hpq ▸ h

/-- Work that succeeds hinges on nothing. -/
theorem ok (a : α) : HingesOn True (.ok a : Except Halt α) where
  not_endsAtName _ := not_endsAtName_ok a
  of_ok _ _ := trivial

/-- Work that fails for another reason hinges on anything. -/
theorem failed (failure : Failure) : HingesOn p (.error (.failed failure) : Except Halt α) where
  not_endsAtName _ := by simp
  of_ok a h := by cases h

/-- Asking for an identifier hinges on there being one. -/
theorem identifier (name : String) (ident : Option α) :
    HingesOn (ident.isSome : Prop) (Emit.identifier name ident) where
  not_endsAtName h := by simpa [Option.isSome_iff_ne_none] using h
  of_ok a h := by rw [identifier_eq_ok.mp h, Option.isSome_some]

/-- Work in two steps hinges on what each of them hinges on. -/
theorem bind {work : Except Halt α} {next : α → Except Halt β} (hwork : HingesOn p work)
    (hnext : ∀ a, work = .ok a → HingesOn q (next a)) : HingesOn (p ∧ q) (work >>= next) where
  not_endsAtName h := by
    rw [endsAtName_bind]
    rintro (hfirst | ⟨a, ha, hsecond⟩)
    · exact hwork.not_endsAtName h.1 hfirst
    · exact (hnext a ha).not_endsAtName h.2 hsecond
  of_ok b hb := by
    obtain ⟨a, ha, hb⟩ := bind_eq_ok.mp hb
    exact ⟨hwork.of_ok a ha, (hnext a ha).of_ok b hb⟩

/-- Work that goes on without names hinges on what it starts with. -/
theorem andThen {work : Except Halt α} {next : α → Except Halt β} (hwork : HingesOn p work)
    (hnext : ∀ a, work = .ok a → HingesOn True (next a)) : HingesOn p (work >>= next) :=
  (hwork.bind hnext).congr (Iff.of_eq (and_true p))

/-- Work that starts without names hinges on what it goes on with. -/
theorem after {work : Except Halt α} {next : α → Except Halt β} (hwork : HingesOn True work)
    (hnext : ∀ a, work = .ok a → HingesOn q (next a)) : HingesOn q (work >>= next) :=
  (hwork.bind hnext).congr (Iff.of_eq (true_and q))

/-- Work on each element of a list hinges on what the elements hinge on. -/
theorem each {f : α → Reported β} {as : List α} {q : α → Prop}
    (h : ∀ a ∈ as, HingesOn (q a) (f a).outcome) :
    HingesOn (∀ a ∈ as, q a) (Reported.each f as).outcome := by
  induction as with
  | nil => exact (ok []).congr (by simp)
  | cons a as ih =>
    have hothers := ih fun b hb => h b (List.mem_cons_of_mem _ hb)
    rw [Reported.each, Reported.bind_outcome]
    refine ((h a List.mem_cons_self).bind fun b _ => ?_).congr List.forall_mem_cons.symm
    rw [Reported.bind_outcome]
    exact hothers.andThen fun others _ => ok _

end HingesOn

/-! ## Fields -/

/-- The local name of the message that a type by its number refers to, if it is one. -/
def referenced? (code : Int32) (typeName : Option String) : Option String :=
  match FieldType.ofCode code with
  | .ok .message => typeName.bind Naming.localName?
  | _ => none

/-- The local name of the message that the code of a field refers to, if it does. Where the key of a
map has no code, nor has its value. -/
def refersTo? (field : Schema.Field) : Option String :=
  match field.mapEntry with
  | some entry =>
    match FieldType.ofCode entry.keyType with
    | .ok (.scalar _) => referenced? entry.valueType entry.valueTypeName
    | _ => none
  | none => referenced? field.typeCode field.typeName

/-- The names that the code of a field needs will do: the message it refers to is called like a type
and, if there is code, its own name in camel case can be that of a member. -/
def FieldNameable (field : Schema.Field) : Prop :=
  (∀ name ∈ refersTo? field, IsTypeName name) ∧
    ((shapeOf field).isOk → Text.IsNameable (Naming.camelCase field.name).toList)

instance (field : Schema.Field) : Decidable (FieldNameable field) :=
  inferInstanceAs (Decidable (_ ∧ _))

/-- Values are resolved without an end at a name exactly if the message that they are, if they are
one, is called like a type. -/
theorem resolve_not_endsAtName_iff (field : String) (code : Int32) (typeName : Option String) :
    ¬ EndsAtName (ValueForm.resolve field code typeName) ↔
      ∀ name ∈ referenced? code typeName, IsTypeName name := by
  unfold ValueForm.resolve referenced?
  cases FieldType.ofCode code with
  | error failure => simp
  | ok type =>
    cases type with
    | scalar s => simp
    | message =>
      cases typeName.bind Naming.localName? with
      | none => simp
      | some name =>
        simp only [Option.mem_def, Option.some.injEq, forall_eq', Naming.isTypeName_iff]
        cases Naming.messageIdent? name <;>
          simp [identifier_eq_ok, Option.isSome_iff_ne_none]

/-- So is a field, if the message that its code refers to is called like a type. -/
theorem shapeOf_not_endsAtName_iff (field : Schema.Field) :
    ¬ EndsAtName (shapeOf field) ↔ ∀ name ∈ refersTo? field, IsTypeName name := by
  unfold shapeOf refersTo?
  cases field.mapEntry with
  | none => simpa using resolve_not_endsAtName_iff field.name field.typeCode field.typeName
  | some entry =>
    have hvalue := resolve_not_endsAtName_iff field.name entry.valueType entry.valueTypeName
    dsimp only
    cases hkey : FieldType.ofCode entry.keyType with
    | error failure => simp [ValueForm.resolve, hkey]
    | ok type =>
      cases type with
      | message => simp [ValueForm.resolve, hkey]
      | scalar s =>
        have hkey : ValueForm.resolve field.name entry.keyType none = .ok (.scalar s) := by
          simp [ValueForm.resolve, hkey]
        simpa [hkey] using hvalue

/-- A member hinges on the name of its field in camel case. -/
theorem member_hingesOn {member? : String → Option Target.Ident}
    (h : ∀ field, (member? field).isSome ↔ Text.IsNameable (Naming.camelCase field).toList)
    (field : String) :
    HingesOn (Text.IsNameable (Naming.camelCase field).toList)
      (identifier field (member? field)) :=
  (HingesOn.identifier field (member? field)).congr (h field)

/-- The members of a field hinge on its name. -/
theorem codeOf_hingesOn (ctx : Context) (field : Schema.Field) (shape : Shape ValueForm) :
    HingesOn (Text.IsNameable (Naming.camelCase field.name).toList) (codeOf ctx field shape) := by
  have hident := member_hingesOn Naming.fieldIdent?_isSome_iff field.name
  have hkeys := member_hingesOn Naming.mapKeysIdent?_isSome_iff field.name
  have hvalues := member_hingesOn Naming.mapValuesIdent?_isSome_iff field.name
  cases shape with
  | singular form => exact hident.andThen fun ident _ => .ok _
  | repeated form => exact hident.andThen fun ident _ => .ok _
  | map key value =>
    exact (hkeys.bind fun keys _ => hvalues.andThen fun values _ => .ok _).congr (and_self_iff)

/-- The code of a field hinges on the names it needs. -/
theorem fieldCode_hingesOn (ctx : Context) (owner : String) (field : Schema.Field) :
    HingesOn (FieldNameable field) (fieldCode ctx owner field).outcome := by
  have hrefers := shapeOf_not_endsAtName_iff field
  unfold fieldCode FieldNameable
  rw [← hrefers]
  split
  next shape hok =>
    rw [hok]
    have hstuck := (HingesOn.ok shape).not_endsAtName trivial
    exact (codeOf_hingesOn ctx field shape).congr (by simp [hstuck, Except.isOk, Except.toBool])
  next code hunsupported =>
    rw [hunsupported]
    exact (HingesOn.ok _).congr (by simp [Except.isOk, Except.toBool])
  next halt _ hhalt =>
    rw [hhalt, Reported.ofExcept_outcome]
    exact ⟨fun h => by simpa using h.1, fun _ h => by cases h⟩

/-! ## Messages and files -/

/-- The names that the code of a message needs will do. -/
def MessageNameable (message : Schema.Message) : Prop :=
  IsTypeName message.name ∧ ∀ field ∈ message.fields, FieldNameable field

instance (message : Schema.Message) : Decidable (MessageNameable message) :=
  inferInstanceAs (Decidable (_ ∧ _))

/-- The code of fields in a row hinges on the names that each of them needs. -/
theorem fieldCodes_hingesOn (ctx : Context) (message : Schema.Message)
    (fields : List Schema.Field) : ∀ seen, HingesOn (∀ field ∈ fields, FieldNameable field)
      (fieldCodes ctx message seen fields).outcome := by
  induction fields with
  | nil => exact fun seen => (HingesOn.ok []).congr (by simp)
  | cons field fields ih =>
    intro seen
    rw [fieldCodes, Reported.bind_outcome]
    refine ((fieldCode_hingesOn ctx message.fullName field).bind fun code _ => ?_).congr
      List.forall_mem_cons.symm
    split
    next => exact .failed _
    next =>
      rw [Reported.bind_outcome]
      exact (ih _).andThen fun others _ => .ok _

/-- The code of a message hinges on its name and those of its fields. -/
theorem messageItems_hingesOn (ctx : Context) (message : Schema.Message) :
    HingesOn (MessageNameable message) (messageItems ctx message).outcome := by
  have hident := HingesOn.identifier message.name (Naming.messageIdent? message.name)
  have hcodec := HingesOn.identifier message.name (Naming.codecIdent? message.name)
  have hcodes := fieldCodes_hingesOn ctx message message.fields []
  rw [MessageNameable, Naming.isTypeName_iff, and_assoc, messageItems, Reported.bind_outcome]
  refine hident.bind fun ident _ => ?_
  rw [Reported.bind_outcome]
  refine hcodec.bind fun codec _ => ?_
  rw [Reported.bind_outcome]
  exact hcodes.andThen fun codes _ => .ok _

/-- The code of a file hinges on the names of its messages. -/
theorem fileItems_hingesOn (ctx : Context) (file : Schema.File) :
    HingesOn (∀ message ∈ emittedMessages file, MessageNameable message)
      (fileItems ctx file).outcome := by
  unfold fileItems
  dsimp only
  split
  next => exact .failed _
  next =>
    rw [map_eq_pure_bind, Reported.bind_outcome]
    refine HingesOn.andThen ?_ fun groups _ => .ok _
    exact .each fun message _ => messageItems_hingesOn ctx message

/-- Work that can only fail in other ways hinges on nothing. -/
theorem halting_hingesOn (work : Except Failure α) : HingesOn True (halting work).outcome := by
  cases work with
  | ok a => exact .ok a
  | error failure => exact .failed failure

/-- Work that can fail succeeds alike where it can end early. -/
theorem halting_eq_ok {work : Except Failure α} {a : α} :
    (halting work).outcome = .ok a ↔ work = .ok a := by
  cases work <;> simp [halting, Except.mapError]

/-- Work that can fail ends early with its failure and with nothing else. -/
theorem halting_eq_error {work : Except Failure α} {halt : Halt} :
    (halting work).outcome = .error halt ↔
      ∃ failure, work = .error failure ∧ halt = .failed failure := by
  cases work <;> simp [halting, Except.mapError, eq_comm]

/-- If the descriptor of a file is taken over, the names in its messages will do. -/
def FileNameable (file : Descriptor.File) : Prop :=
  ∀ schema, Schema.ofDescriptor file = .ok schema →
    ∀ message ∈ emittedMessages schema, MessageNameable message

instance (file : Descriptor.File) : Decidable (FileNameable file) :=
  match h : Schema.ofDescriptor file with
  | .ok schema =>
    decidable_of_iff (∀ message ∈ emittedMessages schema, MessageNameable message)
      (by simp [FileNameable, h])
  | .error _ => .isTrue (by simp [FileNameable, h])

/-- The unit of a file hinges on the names in it. -/
theorem fileUnit_hingesOn (file : Descriptor.File) (options : Options) :
    HingesOn (FileNameable file) (fileUnit file options).outcome := by
  rw [fileUnit, Reported.bind_outcome]
  refine (halting_hingesOn _).after fun ctx _ => ?_
  rw [Reported.bind_outcome]
  refine (halting_hingesOn _).after fun schema hschema => ?_
  have hfile : (∀ message ∈ emittedMessages schema, MessageNameable message) ↔
      FileNameable file := by
    rw [FileNameable, halting_eq_ok.mp hschema]
    simp
  rw [Reported.bind_outcome]
  refine ((fileItems_hingesOn ctx schema).congr hfile).andThen fun items _ => ?_
  split
  next => exact .ok _
  next => exact .failed _

end Wiregen.Emit
