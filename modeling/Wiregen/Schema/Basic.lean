/-!
# Schemas

A schema file with its gaps filled in: full names, resolved map fields, comments at their elements.
Numbers of field types stay as they are, known or not.
-/

namespace Wiregen.Schema

/-- How often a field occurs. -/
inductive Label where
  | optional
  | required
  | repeated
  deriving DecidableEq, Repr

/-- The label of a number. Every number that is none reads as optional. -/
def Label.ofNumber (number : Option Int32) : Label :=
  match number with
  | some 2 => .required
  | some 3 => .repeated
  | _ => .optional

/-- The types of the keys and values of a map field. -/
structure MapEntry where
  keyType : Int32
  valueType : Int32
  valueTypeName : Option String
  deriving DecidableEq, Repr

/-- A field of a message. -/
structure Field where
  name : String
  number : Int32
  typeCode : Int32
  typeName : Option String
  label : Label
  oneofIndex : Option Int32
  /-- Key and value types, for a map field. -/
  mapEntry : Option MapEntry
  doc : Option String
  deriving DecidableEq, Repr

/-- A message with the messages declared in it. -/
structure Message where
  name : String
  /-- The names of the package, of the messages around it and its own, with dots between them. -/
  fullName : String
  fields : List Field
  nested : List Message
  isMapEntry : Bool
  doc : Option String

/-- A schema file. -/
structure File where
  name : String
  package : String
  messages : List Message

mutual

/-- A message and all in it, each before those declared in it. -/
def Message.walk : Message → List Message
  | ⟨name, fullName, fields, nested, isMapEntry, doc⟩ =>
    ⟨name, fullName, fields, nested, isMapEntry, doc⟩ :: walkAll nested

/-- Messages and all in them, in the order of declaration. -/
def walkAll : List Message → List Message
  | [] => []
  | message :: others => message.walk ++ walkAll others

end

/-- Every message of a file. -/
def File.walk (file : File) : List Message := walkAll file.messages

end Wiregen.Schema
