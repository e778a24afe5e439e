import Wiregen.Failure
import Wiregen.Schema.Basic
import Wiregen.Schema.Comments

/-!
# Schemas from descriptors

A descriptor is taken over unless a field number is out of range or a map field is not what the
schema compiler makes of one. The first such field, own fields before those of nested messages, is
the one that is named.
-/

namespace Wiregen.Schema

/-- The largest number a field may have. -/
def maxFieldNumber : Int32 := 536870911

/-- A name below that of its surroundings. -/
def qualify (parent name : String) : String := if parent = "" then name else parent ++ "." ++ name

/-! ## Map entries -/

mutual

/-- The map entries in a message, itself included, by the name that fields refer to them with. -/
def mapEntries (parent : String) : Descriptor.Message → List (String × Descriptor.Message)
  | ⟨name, fields, nested, mapEntry⟩ =>
    let message : Descriptor.Message := ⟨name, fields, nested, mapEntry⟩
    let fullName := qualify parent message.nameText
    (if message.isMapEntry then [("." ++ fullName, message)] else [])
      ++ allMapEntries fullName nested

/-- The map entries in messages. -/
def allMapEntries (parent : String) : List Descriptor.Message → List (String × Descriptor.Message)
  | [] => []
  | message :: others => mapEntries parent message ++ allMapEntries parent others

end

/-- What the fields of a file are read with. -/
structure Surroundings where
  comments : Comments
  entries : List (String × Descriptor.Message)

/-- The map entry of a name; of several the last. -/
def Surroundings.entry? (s : Surroundings) (typeName : String) : Option Descriptor.Message :=
  s.entries.reverse.lookup typeName

/-- The field of a map entry with the given name and number. -/
def entryField (owner : String) (entry : Descriptor.Message) (name : String) (number : Int32) :
    Except Failure Descriptor.Field :=
  match entry.fields.find? fun f => f.nameText = name && f.numberValue = number with
  | some field => .ok field
  | none =>
    .error (.malformedSchema owner
      ("map entry " ++ entry.nameText ++ " lacks a `" ++ name ++ "` field numbered "
        ++ toString number.toInt))

/-- The types of a map entry, which has two fields: `key`, number 1, and `value`, number 2. -/
def mapEntryTypes (owner : String) (entry : Descriptor.Message) : Except Failure MapEntry :=
  if entry.fields.length ≠ 2 then
    .error (.malformedSchema owner
      ("map entry " ++ entry.nameText ++ " has " ++ toString entry.fields.length
        ++ " fields, expected key and value"))
  else do
    let key ← entryField owner entry "key" 1
    let value ← entryField owner entry "value" 2
    return {
      keyType := key.typeCode
      valueType := value.typeCode
      valueTypeName := value.referencedType? }

/-! ## Fields and messages -/

/-- A field of the message `owner`. -/
def field (s : Surroundings) (owner : String) (path : List Int32) (f : Descriptor.Field) :
    Except Failure Field := do
  if f.numberValue < 1 || maxFieldNumber < f.numberValue then
    throw (.malformedSchema owner
      ("field " ++ f.nameText ++ " has invalid number " ++ toString f.numberValue.toInt))
  let label := Label.ofNumber f.label
  let mapEntry ←
    match f.typeName.bind s.entry? with
    | none => pure none
    | some entry =>
      if label ≠ .repeated then
        throw (.malformedSchema owner ("map field " ++ f.nameText ++ " is not repeated"))
      else
        some <$> mapEntryTypes owner entry
  return {
    name := f.nameText
    number := f.numberValue
    typeCode := f.typeCode
    typeName := f.referencedType?
    label
    oneofIndex := f.oneofIndex
    mapEntry
    doc := s.comments.get? path }

/-- The path of the element at an index of a list that is itself at a path. -/
def elementPath (path : List Int32) (list : Int32) (index : Nat) : List Int32 :=
  path ++ [list, Int32.ofNat index]

/-- Where a file lists its messages. -/
def fileMessages : Int32 := 4

/-- Where a message lists its fields. -/
def messageFields : Int32 := 2

/-- Where a message lists the messages in it. -/
def messageNested : Int32 := 3

/-- The fields of a message from an index on. -/
def fieldsFrom (s : Surroundings) (owner : String) (path : List Int32) :
    (index : Nat) → List Descriptor.Field → Except Failure (List Field)
  | _, [] => .ok []
  | index, f :: others => do
    let first ← field s owner (elementPath path messageFields index) f
    return first :: (← fieldsFrom s owner path (index + 1) others)

mutual

/-- A message below `parent` at a path. -/
def message (s : Surroundings) (parent : String) (path : List Int32) :
    Descriptor.Message → Except Failure Message
  | ⟨name, fields, nested, mapEntry⟩ => do
    let fullName := qualify parent (name.getD "")
    let fields ← fieldsFrom s fullName path 0 fields
    let nested ← messagesFrom s fullName path messageNested 0 nested
    return {
      name := name.getD ""
      fullName
      fields
      nested
      isMapEntry := mapEntry.getD false
      doc := s.comments.get? path }

/-- The messages of a list at a path, from an index on. -/
def messagesFrom (s : Surroundings) (parent : String) (path : List Int32) (list : Int32) :
    (index : Nat) → List Descriptor.Message → Except Failure (List Message)
  | _, [] => .ok []
  | index, m :: others => do
    let first ← message s parent (elementPath path list index) m
    return first :: (← messagesFrom s parent path list (index + 1) others)

end

/-- The schema of a file. -/
def ofDescriptor (file : Descriptor.File) : Except Failure File := do
  let package := file.packageText
  let s : Surroundings :=
    { comments := .ofFile file, entries := allMapEntries package file.messages }
  return {
    name := file.nameText
    package
    messages := ← messagesFrom s package [] fileMessages 0 file.messages }

end Wiregen.Schema
