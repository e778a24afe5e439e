import Wiregen.Proofs.Schema.Declared

/-!
# Schemas without comments

What a schema is taken over as without its comments is what it is taken over as with them, less the
comments (`ofDescriptor_withoutInfo`): they decide nothing, neither whether a descriptor is accepted
nor why it is not.
-/

namespace Wiregen.Schema

/-! ## Comments taken away -/

/-- A field without its comment. -/
def Field.withoutDocs (field : Field) : Field := { field with doc := none }

mutual

/-- A message without comments on it and in it. -/
def Message.withoutDocs : Message → Message
  | ⟨name, fullName, fields, nested, isMapEntry, _⟩ =>
    ⟨name, fullName, fields.map Field.withoutDocs, withoutDocsAll nested, isMapEntry, none⟩

/-- Messages without comments on them and in them. -/
def withoutDocsAll : List Message → List Message
  | [] => []
  | message :: others => message.withoutDocs :: withoutDocsAll others

end

/-- A schema file without comments. -/
def File.withoutDocs (file : File) : File := { file with messages := withoutDocsAll file.messages }

namespace Message

@[simp] theorem withoutDocs_name (message : Message) : message.withoutDocs.name = message.name := by
  cases message
  rfl

@[simp] theorem withoutDocs_fullName (message : Message) :
    message.withoutDocs.fullName = message.fullName := by
  cases message
  rfl

@[simp] theorem withoutDocs_fields (message : Message) :
    message.withoutDocs.fields = message.fields.map Field.withoutDocs := by
  cases message
  rfl

@[simp] theorem withoutDocs_isMapEntry (message : Message) :
    message.withoutDocs.isMapEntry = message.isMapEntry := by
  cases message
  rfl

@[simp] theorem withoutDocs_doc (message : Message) : message.withoutDocs.doc = none := by
  cases message
  rfl

end Message

mutual

/-- The messages in a message without comments are those in the message, without comments. -/
theorem Message.walk_withoutDocs : ∀ message : Message,
    message.withoutDocs.walk = message.walk.map Message.withoutDocs
  | ⟨_, _, _, nested, _, _⟩ => by
    simp only [Message.withoutDocs, Message.walk, List.map_cons, walkAll_withoutDocs nested]

/-- Messages without comments hold the same messages, without theirs. -/
theorem walkAll_withoutDocs : ∀ messages : List Message,
    walkAll (withoutDocsAll messages) = (walkAll messages).map Message.withoutDocs
  | [] => rfl
  | message :: others => by
    simp only [withoutDocsAll, walkAll, List.map_append, message.walk_withoutDocs,
      walkAll_withoutDocs others]

end

/-- A file without comments has the same messages, without theirs. -/
theorem File.walk_withoutDocs (file : File) :
    file.withoutDocs.walk = file.walk.map Message.withoutDocs :=
  walkAll_withoutDocs file.messages

/-! ## Descriptors without comments -/

/-- The surroundings of a file without comments. -/
def Surroundings.silent (s : Surroundings) : Surroundings := { s with comments := ⟨[]⟩ }

section
variable (s : Surroundings)

/-- Where nothing has a comment, a field is taken over without one. -/
theorem field_silent (owner : String) (path : List Int32) (f : Descriptor.Field) :
    field s.silent owner path f = (field s owner path f).map Field.withoutDocs := by
  rw [field, field]
  by_cases hout : (f.numberValue < 1 || maxFieldNumber < f.numberValue) = true
  · rw [if_pos hout, if_pos hout]
    rfl
  · rw [if_neg hout, if_neg hout]
    have hentry : f.typeName.bind s.silent.entry? = f.typeName.bind s.entry? := rfl
    rw [hentry]
    dsimp only
    split
    next => rfl
    next entry _ =>
      split
      next => rfl
      next => cases mapEntryTypes owner entry <;> rfl

/-- Where nothing has a comment, fields are taken over without any. -/
theorem fieldsFrom_silent (owner : String) (path : List Int32) (fs : List Descriptor.Field) :
    ∀ index, fieldsFrom s.silent owner path index fs =
      (fieldsFrom s owner path index fs).map (List.map Field.withoutDocs) := by
  induction fs with
  | nil => exact fun _ => rfl
  | cons f others ih =>
    intro index
    rw [fieldsFrom, fieldsFrom, field_silent, ih]
    cases field s owner (elementPath path messageFields index) f with
    | error failure => rfl
    | ok first => cases fieldsFrom s owner path (index + 1) others <;> rfl

mutual

/-- Where nothing has a comment, a message is taken over without any in it. -/
theorem message_silent (parent : String) (path : List Int32) : ∀ m : Descriptor.Message,
    message s.silent parent path m = (message s parent path m).map Message.withoutDocs
  | ⟨name, fields, nested, mapEntry⟩ => by
    rw [message, message, fieldsFrom_silent, messagesFrom_silent]
    cases fieldsFrom s (qualify parent (name.getD "")) path 0 fields with
    | error failure => rfl
    | ok fields' =>
      cases messagesFrom s (qualify parent (name.getD "")) path messageNested 0 nested <;> rfl

/-- Where nothing has a comment, messages are taken over without any in them. -/
theorem messagesFrom_silent (parent : String) (path : List Int32) (list : Int32) :
    ∀ (index : Nat) (ms : List Descriptor.Message),
      messagesFrom s.silent parent path list index ms =
        (messagesFrom s parent path list index ms).map withoutDocsAll
  | _, [] => rfl
  | index, m :: others => by
    rw [messagesFrom, messagesFrom, message_silent, messagesFrom_silent]
    cases message s parent (elementPath path list index) m with
    | error failure => rfl
    | ok first => cases messagesFrom s parent path list (index + 1) others <;> rfl

end

end

/-- A descriptor is taken over with its messages, in its own surroundings. -/
theorem ofDescriptor_eq (file : Descriptor.File) :
    ofDescriptor file =
      (messagesFrom (surroundings file) file.packageText [] fileMessages 0 file.messages).map
        (File.mk file.nameText file.packageText) := by
  rw [ofDescriptor, ← surroundings]
  cases messagesFrom (surroundings file) file.packageText [] fileMessages 0 file.messages <;> rfl

/-- Whether a descriptor is taken over, and what as, does not depend on its comments, but for the
comments themselves. -/
theorem ofDescriptor_withoutInfo (file : Descriptor.File) :
    ofDescriptor { file with info := none } = (ofDescriptor file).map File.withoutDocs := by
  calc ofDescriptor { file with info := none }
    _ = (messagesFrom (surroundings file).silent file.packageText [] fileMessages 0
          file.messages).map (File.mk file.nameText file.packageText) := ofDescriptor_eq _
    _ = (ofDescriptor file).map File.withoutDocs := by
      rw [messagesFrom_silent, ofDescriptor_eq]
      cases messagesFrom (surroundings file) file.packageText [] fileMessages 0 file.messages
      all_goals rfl

end Wiregen.Schema
