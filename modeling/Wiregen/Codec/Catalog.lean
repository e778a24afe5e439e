import Wiregen.Emit.Message

/-!
# Catalogs

What the codecs of a schema file need to know of it: for each message its fields, and for each field
its number, its shape and what its values are. References to messages are places in the catalog, so
that none leads nowhere.
-/

namespace Wiregen.Codec

open Schema (Shape)
open Wire (Scalar WireType)

/-- What the values of a field are, in a catalog of `n` messages. -/
inductive Element (n : Nat) where
  | scalar (s : Scalar)
  | message (i : Fin n)
  deriving DecidableEq, Repr

/-- How values are framed. -/
def Element.wireType {n : Nat} : Element n → WireType
  | .scalar s => s.wireType
  | .message _ => .lengthDelimited

/-- A field of a message. -/
structure Field (n : Nat) where
  name : String
  number : UInt32
  shape : Shape (Element n)
  deriving DecidableEq, Repr

/-- A message with its fields in the order of declaration. -/
structure MessagePlan (n : Nat) where
  name : String
  fields : List (Field n)
  deriving DecidableEq, Repr

/-- The messages of a file that have codecs. -/
structure Catalog where
  size : Nat
  messages : Vector (MessagePlan size) size
  deriving DecidableEq

namespace Catalog

/-- The fields of a message. -/
def fields (c : Catalog) (i : Fin c.size) : List (Field c.size) := c.messages[i].fields

/-- The place of the message with the given name. -/
def find? (c : Catalog) (name : String) : Option (Fin c.size) :=
  (List.finRange c.size).find? fun i => c.messages[i].name = name

/-! ## Catalogs of schema files -/

/-- The place of the message that has the type and the codec of a value form. -/
def place? (messages : List Schema.Message) (type codec : Target.Ident) :
    Option (Fin messages.length) :=
  (List.finRange messages.length).find? fun i =>
    Naming.messageIdent? messages[i].name = some type
      && Naming.codecIdent? messages[i].name = some codec

/-- The values of a form. -/
def element? (messages : List Schema.Message) :
    Emit.ValueForm → Option (Element messages.length)
  | .scalar s => some (.scalar s)
  | .message type codec => (place? messages type codec).map .message

/-- The fields that have code, each with its values' messages found. -/
def fields? (messages : List Schema.Message) :
    List Schema.Field → Option (List (Field messages.length))
  | [] => some []
  | field :: others =>
    match Emit.shapeOf field with
    | .error (.failed (.unsupportedFieldType _)) => fields? messages others
    | .error _ => none
    | .ok shape => do
      let shape ← shape.traverse (element? messages)
      let others ← fields? messages others
      return ⟨field.name, field.number.toUInt32, shape⟩ :: others

/-- The catalog of a file, if its codecs refer to no message outside of it. -/
def ofFile? (file : Schema.File) : Option Catalog := do
  let messages := Emit.emittedMessages file
  let plans ← (Vector.mk messages.toArray (by simp) : Vector _ messages.length).mapM fun message =>
    (fields? messages message.fields).map (MessagePlan.mk message.name)
  return ⟨messages.length, plans⟩

end Catalog

end Wiregen.Codec
