/-!
# Schema descriptors

A schema file as the schema compiler describes it: every member may be absent, and numbers stand for
types and labels. Absent is not the same as empty.
-/

namespace Wiregen.Descriptor

/-- A field of a message. -/
structure Field where
  name : Option String := none
  number : Option Int32 := none
  type : Option Int32 := none
  label : Option Int32 := none
  typeName : Option String := none
  oneofIndex : Option Int32 := none
  deriving DecidableEq, Repr

/-- A message with the messages declared in it. -/
structure Message where
  name : Option String := none
  fields : List Field := []
  nested : List Message := []
  /-- The option that marks the entry message of a map field. -/
  mapEntry : Option Bool := none
  deriving Inhabited

/-- Comments on the element that a path leads to. -/
structure Location where
  path : List Int32 := []
  leading : Option String := none
  trailing : Option String := none
  deriving DecidableEq, Repr

/-- A schema file. -/
structure File where
  name : Option String := none
  package : Option String := none
  messages : List Message := []
  /-- The comments of the file, where the compiler kept them. -/
  info : Option (List Location) := none

namespace Field

/-- The name, empty where absent. -/
def nameText (field : Field) : String := field.name.getD ""

/-- The number, zero where absent. -/
def numberValue (field : Field) : Int32 := field.number.getD 0

/-- The number of the type, zero where absent. -/
def typeCode (field : Field) : Int32 := field.type.getD 0

/-- The type name, if it is not empty. -/
def referencedType? (field : Field) : Option String := field.typeName.filter (· ≠ "")

end Field

namespace Message

/-- The name, empty where absent. -/
def nameText (message : Message) : String := message.name.getD ""

/-- Whether the message is the entry of a map field. -/
def isMapEntry (message : Message) : Bool := message.mapEntry.getD false

end Message

namespace File

/-- The name, empty where absent. -/
def nameText (file : File) : String := file.name.getD ""

/-- The package, empty where absent. -/
def packageText (file : File) : String := file.package.getD ""

end File

end Wiregen.Descriptor
