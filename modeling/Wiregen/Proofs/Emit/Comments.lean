import Wiregen.Proofs.Emit.Names
import Wiregen.Proofs.Emit.Omitted
import Wiregen.Proofs.Schema.WithoutDocs

/-!
# Code without comments

Where comments are off, code is emitted as if there were none (`fileUnit_withoutComments`): they
reach the code as lines of documentation and nothing else. The lines for fields that are left out
stay.
-/

namespace Wiregen.Emit

open Schema (Field File Message)
open Target (Ident Item)

/-- The context with comments off. -/
def Context.silent (ctx : Context) : Context := { ctx with comments := false }

section
variable (ctx : Context)

/-! ## Messages -/

/-- With comments off nothing has a comment. -/
theorem docLines_silent (doc : Option String) : docLines ctx.silent doc = [] := by
  cases doc <;> rfl

/-- The code of a shape without comments. -/
theorem codeOf_withoutDocs (field : Field) (shape : Schema.Shape ValueForm) :
    codeOf ctx field.withoutDocs shape = codeOf ctx.silent field shape := by
  unfold codeOf
  rw [docLines_silent]
  rfl

/-- The code of a field without its comment is that of the field with comments off. -/
theorem fieldCode_withoutDocs (owner : String) (field : Field) :
    fieldCode ctx owner field.withoutDocs = fieldCode ctx.silent owner field := by
  have hshape : shapeOf field.withoutDocs = shapeOf field := rfl
  unfold fieldCode
  rw [hshape]
  split
  next shape _ => exact congrArg Reported.ofExcept (codeOf_withoutDocs ctx field shape)
  next => rfl
  next => rfl

/-- The code of a field behind others is without its comment that of the field with comments off. -/
theorem freshCode_withoutDocs (owner : String) (seen : List Ident) (field : Field) :
    freshCode ctx owner seen field.withoutDocs = freshCode ctx.silent owner seen field := by
  rw [freshCode, freshCode, fieldCode_withoutDocs]
  rfl

/-- The code of fields without their comments is that of the fields with comments off. -/
theorem fieldCodes_withoutDocs (message : Message) (fields : List Field) : ∀ seen,
    fieldCodes ctx message.withoutDocs seen (fields.map Field.withoutDocs) =
      fieldCodes ctx.silent message seen fields := by
  induction fields with
  | nil => exact fun _ => rfl
  | cons field others ih =>
    intro seen
    simp only [List.map_cons, fieldCodes_cons, Message.withoutDocs_fullName, freshCode_withoutDocs,
      ih]

/-- The items of a message without its comment are those of the message with comments off. -/
theorem itemsOf_withoutDocs (message : Message) (ident codec : Ident) (codes : List FieldCode) :
    itemsOf ctx message.withoutDocs ident codec codes =
      itemsOf ctx.silent message ident codec codes := by
  rw [itemsOf, itemsOf, Message.withoutDocs_doc, docLines_silent]
  rfl

/-- The code of a message without comments is its code where they are off. -/
theorem messageItems_withoutDocs (message : Message) :
    messageItems ctx message.withoutDocs = messageItems ctx.silent message := by
  simp only [messageItems, Message.withoutDocs_name, Message.withoutDocs_fields,
    fieldCodes_withoutDocs, itemsOf_withoutDocs]

/-! ## Files -/

/-- Without comments the same messages are emitted. -/
theorem emittedMessages_withoutDocs (file : File) :
    emittedMessages file.withoutDocs = (emittedMessages file).map Message.withoutDocs := by
  rw [emittedMessages, emittedMessages, file.walk_withoutDocs, List.filter_map]
  simp only [Function.comp_def, Message.withoutDocs_isMapEntry]

/-- Comments change nothing about which local names are used twice. -/
theorem firstClash_withoutDocs (messages : List Message) : ∀ seen,
    firstClash (seen.map Message.withoutDocs) (messages.map Message.withoutDocs) =
      (firstClash seen messages).map fun clash => (clash.1.withoutDocs, clash.2) := by
  induction messages with
  | nil => exact fun _ => rfl
  | cons message others ih =>
    intro seen
    have hfind : (seen.map Message.withoutDocs).find? (·.name = message.name) =
        (seen.find? (·.name = message.name)).map Message.withoutDocs := by
      rw [List.find?_map]
      simp only [Function.comp_def, Message.withoutDocs_name]
    rw [List.map_cons, firstClash, firstClash, Message.withoutDocs_name, hfind]
    cases seen.find? (·.name = message.name) with
    | none => exact ih (message :: seen)
    | some previous => simp

/-- Work on elements that come from others is work on those. -/
theorem each_map {α β γ : Type} (g : α → β) (f : β → Reported γ) (as : List α) :
    Reported.each f (as.map g) = Reported.each (fun a => f (g a)) as := by
  induction as with
  | nil => rfl
  | cons a as ih => rw [List.map_cons, Reported.each, Reported.each, ih]

/-- The code of a file without comments is its code where they are off. -/
theorem fileItems_withoutDocs (file : File) :
    fileItems ctx file.withoutDocs = fileItems ctx.silent file := by
  have hclash := firstClash_withoutDocs (emittedMessages file) []
  rw [List.map_nil, ← emittedMessages_withoutDocs] at hclash
  unfold fileItems
  dsimp only
  rw [hclash]
  cases firstClash [] (emittedMessages file) with
  | none =>
    rw [emittedMessages_withoutDocs, each_map]
    simp only [messageItems_withoutDocs]
    rfl
  | some clash => simp

end

/-! ## Units -/

/-- The unit of a schema. -/
def schemaUnit (ctx : Context) (schema : File) : Reported SourceUnit := do
  let items ← fileItems ctx schema
  if isCode ctx items then
    return {
      name := Naming.unitPath schema.name schema.package
      content := header schema.name ++ Target.pretty items }
  else
    Reported.fail .unparsable

/-- The unit of a file is that of the schema it is taken over as. -/
theorem fileUnit_eq (file : Descriptor.File) (options : Options) :
    fileUnit file options =
      halting (Context.ofOptions options) >>= fun ctx =>
        halting (Schema.ofDescriptor file) >>= schemaUnit ctx :=
  rfl

/-- The unit of a schema without comments is that of the schema with comments off. -/
theorem schemaUnit_withoutDocs (ctx : Context) (schema : File) :
    schemaUnit ctx schema.withoutDocs = schemaUnit ctx.silent schema := by
  rw [schemaUnit, schemaUnit, fileItems_withoutDocs]
  rfl

/-- Work goes on with what is made of the outcome of the work before. -/
theorem halting_map_bind {α β γ : Type} (g : α → β) (x : Except Failure α) (f : β → Reported γ) :
    halting (x.map g) >>= f = halting x >>= fun a => f (g a) := by
  cases x <;> rfl

/-- An option turns comments off in the context and changes nothing else. -/
theorem ofOptions_silent (options : Options) :
    Context.ofOptions { options with comments := false } =
      (Context.ofOptions { options with comments := true }).map Context.silent := by
  unfold Context.ofOptions
  cases Target.PathText.parse? options.runtimeModule <;> rfl

/-- A unit has the items of its file, as lines under its header. -/
theorem fileUnit_eq_ok {file : Descriptor.File} {options : Options} {unit : SourceUnit}
    (h : (fileUnit file options).outcome = .ok unit) : ∃ ctx schema items,
      Context.ofOptions options = .ok ctx ∧ Schema.ofDescriptor file = .ok schema ∧
        (fileItems ctx schema).outcome = .ok items ∧
        unit.content = header schema.name ++ Target.pretty items := by
  rw [fileUnit_eq] at h
  obtain ⟨ctx, hctx, h⟩ := Reported.bind_eq_ok.mp h
  obtain ⟨schema, hschema, h⟩ := Reported.bind_eq_ok.mp h
  obtain ⟨items, hitems, h⟩ := Reported.bind_eq_ok.mp h
  refine ⟨ctx, schema, items, halting_eq_ok.mp hctx, halting_eq_ok.mp hschema, hitems, ?_⟩
  split at h
  next =>
    cases h
    rfl
  next => cases h

/-- The types of a file are documented with the comments on their messages and a line for each field
that is left out. -/
theorem messageItems_docs {ctx : Context} {message : Message} {items : List Item}
    (h : (messageItems ctx message).outcome = .ok items) :
    items.filterMap Item.docs? = [docLines ctx message.doc ++ markersOf message.fields] := by
  obtain ⟨ident, codec, codes, -, -, hcodes, rfl⟩ := messageItems_eq_ok h
  rw [← fieldCodes_markers hcodes]
  rfl

/-- The comments above structs are those of the messages, with a marker for each field left out. -/
theorem fileItems_docs {ctx : Context} {file : File} {items : List Item}
    (h : (fileItems ctx file).outcome = .ok items) :
    items.filterMap Item.docs? =
      (emittedMessages file).map fun message =>
        docLines ctx message.doc ++ markersOf message.fields := by
  obtain ⟨groups, hgroups, rfl⟩ := fileItems_eq_ok h
  have hdocs := Reported.map_each hgroups fun message _ group h => messageItems_docs h
  rw [List.filterMap_flatten, hdocs, ← List.flatMap_def]
  exact List.map_eq_flatMap.symm

/-- Where comments are off, a file has the unit and the reports that it has without its comments, so
that these do not matter. The lines for fields that are left out are there all the same: the types
are documented with them alone. -/
theorem fileUnit_withoutComments (file : Descriptor.File) (options : Options) :
    fileUnit file { options with comments := false } =
      fileUnit { file with info := none } { options with comments := true } ∧
    (∀ info, fileUnit { file with info } { options with comments := false } =
      fileUnit file { options with comments := false }) ∧
    ∀ unit, (fileUnit file { options with comments := false }).outcome = .ok unit →
      ∃ ctx schema items, Context.ofOptions { options with comments := false } = .ok ctx ∧
        Schema.ofDescriptor file = .ok schema ∧ (fileItems ctx schema).outcome = .ok items ∧
        unit.content = header schema.name ++ Target.pretty items ∧
        items.filterMap Item.docs? =
          (emittedMessages schema).map fun message => markersOf message.fields := by
  have hsilent : ∀ file, fileUnit file { options with comments := false } =
      fileUnit { file with info := none } { options with comments := true } := by
    intro file
    simp only [fileUnit_eq, ofOptions_silent, Schema.ofDescriptor_withoutInfo, halting_map_bind,
      schemaUnit_withoutDocs]
  refine ⟨hsilent file, fun info => ?_, fun unit h => ?_⟩
  · rw [hsilent file, hsilent { file with info }]
  · obtain ⟨ctx, schema, items, hctx, hschema, hitems, hcontent⟩ := fileUnit_eq_ok h
    refine ⟨ctx, schema, items, hctx, hschema, hitems, hcontent, ?_⟩
    rw [ofOptions_silent] at hctx
    obtain ⟨ctx, -, rfl⟩ := map_eq_ok.mp hctx
    rw [fileItems_docs hitems]
    simp only [docLines_silent, List.nil_append]

/-! ## A comment and a group -/

/-- A file with a message that has a comment and a group. -/
def storeFile : Descriptor.File :=
  { messages := [{
      name := some "Stock"
      fields := [
        { name := some "old", number := some 1, type := some 10 },
        { name := some "id", number := some 2, type := some 4 }] }]
    info := some [{ path := [4, 0], leading := some "In store." }] }

/-- Where comments are off, the group is all that the type is documented with. -/
theorem fileUnit_withoutComments_store : ∃ (unit : SourceUnit) (schema : File) (items : List Item),
    (fileUnit storeFile { comments := false }).outcome = .ok unit ∧
      unit.content = header schema.name ++ Target.pretty items ∧
      items.filterMap Item.docs? =
        [[" protocodec: field `old` (1) skipped: unsupported field type code 10"]] := by
  have hsome : (fileUnit storeFile { comments := false }).outcome.toOption.isSome := by
    decide +kernel
  have hmarkers : ((Schema.ofDescriptor storeFile).toOption.map fun schema =>
      (emittedMessages schema).map fun message => markersOf message.fields) =
        some [[" protocodec: field `old` (1) skipped: unsupported field type code 10"]] := by
    decide
  obtain ⟨unit, hunit⟩ := toOption_isSome.mp hsome
  obtain ⟨-, -, hdocs⟩ := fileUnit_withoutComments storeFile {}
  obtain ⟨ctx, schema, items, -, hschema, -, hcontent, hitems⟩ := hdocs unit hunit
  rw [hschema] at hmarkers
  exact ⟨unit, schema, items, hunit, hcontent, hitems.trans (Option.some_inj.mp hmarkers)⟩

end Wiregen.Emit
