import Wiregen.Schema.OfDescriptor

/-!
# What a descriptor declares

The messages of a descriptor in a row, each before those declared in it, with their full names; and
their fields in the same order. A type name refers to a map entry by its full name behind a dot, and
of several map entries with one full name to the last in the row (`lookup_entry_eq`).
-/

namespace Wiregen.Schema

/-! ## Declarations -/

/-- A message of a descriptor with its full name. -/
structure Declaration where
  fullName : String
  message : Descriptor.Message

mutual

/-- The declarations in a message below `parent`, its own first. -/
def declared (parent : String) : Descriptor.Message → List Declaration
  | ⟨name, fields, nested, mapEntry⟩ =>
    let fullName := qualify parent (name.getD "")
    ⟨fullName, ⟨name, fields, nested, mapEntry⟩⟩ :: declaredIn fullName nested

/-- The declarations in messages below `parent`, in the order of the messages. -/
def declaredIn (parent : String) : List Descriptor.Message → List Declaration
  | [] => []
  | message :: others => declared parent message ++ declaredIn parent others

end

/-- The declarations in a file. -/
def declarations (file : Descriptor.File) : List Declaration :=
  declaredIn file.packageText file.messages

/-- The fields of a declared message, each with the full name of the message. -/
def Declaration.fields (d : Declaration) : List (String × Descriptor.Field) :=
  d.message.fields.map (d.fullName, ·)

/-- The fields of a file with the full names of their owners: those of a message come before those
of the messages in it, and each in the order of declaration. -/
def declaredFields (file : Descriptor.File) : List (String × Descriptor.Field) :=
  (declarations file).flatMap Declaration.fields

/-! ## References to map entries -/

/-- Whether the declaration is that of a map entry and a type name refers to it. -/
def Declaration.isEntryNamed (typeName : String) (d : Declaration) : Bool :=
  d.message.isMapEntry && "." ++ d.fullName == typeName

/-- The map entry that a type name refers to; of several the last. -/
def entryNamed? (file : Descriptor.File) (typeName : String) : Option Descriptor.Message :=
  ((declarations file).filter (·.isEntryNamed typeName)).getLast?.map (·.message)

/-- The map entry that a field refers to, if its type is one. -/
def entryOf? (file : Descriptor.File) (field : Descriptor.Field) : Option Descriptor.Message :=
  field.typeName.bind (entryNamed? file)

/-- A declared map entry under the name that fields refer to it with. -/
def Declaration.indexed? (d : Declaration) : Option (String × Descriptor.Message) :=
  if d.message.isMapEntry then some ("." ++ d.fullName, d.message) else none

mutual

/-- The indexed map entries of a message are the declared ones, itself and those in it. -/
theorem mapEntries_eq (parent : String) : ∀ message : Descriptor.Message,
    mapEntries parent message = (declared parent message).filterMap Declaration.indexed?
  | ⟨name, fields, nested, mapEntry⟩ => by
    rw [declared, List.filterMap_cons, ← allMapEntries_eq]
    unfold mapEntries Declaration.indexed?
    dsimp only [Descriptor.Message.nameText]
    split
    next => rfl
    next => rfl

/-- The indexed map entries are the declared ones. -/
theorem allMapEntries_eq (parent : String) : ∀ messages : List Descriptor.Message,
    allMapEntries parent messages = (declaredIn parent messages).filterMap Declaration.indexed?
  | [] => rfl
  | message :: others => by
    rw [allMapEntries, declaredIn, List.filterMap_append, mapEntries_eq, allMapEntries_eq]

end

/-- What the fields of a file are read with. -/
def surroundings (file : Descriptor.File) : Surroundings :=
  { comments := .ofFile file, entries := allMapEntries file.packageText file.messages }

/-- What is found last in a list is what a search from its end finds. -/
theorem lookup_reverse {α β : Type} [BEq α] (entries : List (α × β)) (key : α) :
    entries.reverse.lookup key =
      (entries.filterMap fun p => if key == p.1 then some p.2 else none).getLast? := by
  rw [List.lookup_eq_findSome?, List.getLast?_filterMap]

/-- A type name is looked up among the declared map entries, from the last one on. -/
theorem lookup_entry_eq (file : Descriptor.File) (typeName : String) :
    Surroundings.entry? (surroundings file) typeName = entryNamed? file typeName := by
  have hindexed : ∀ d : Declaration,
      (d.indexed?.bind fun p => if typeName == p.1 then some p.2 else none) =
        (Option.guard (·.isEntryNamed typeName) d).map (·.message) := by
    intro d
    unfold Declaration.indexed? Declaration.isEntryNamed Option.guard
    by_cases hentry : d.message.isMapEntry
    · by_cases hname : typeName = "." ++ d.fullName
      · simp [hentry, hname]
      · simp [hentry, hname, Ne.symm hname]
    · simp [hentry]
  rw [Surroundings.entry?, lookup_reverse, surroundings, allMapEntries_eq, List.filterMap_filterMap,
    funext hindexed, ← List.map_filterMap, List.filterMap_eq_filter, List.getLast?_map]
  rfl

end Wiregen.Schema
