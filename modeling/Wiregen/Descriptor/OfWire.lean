import Wiregen.Descriptor.Basic
import Wiregen.Descriptor.Wire

/-!
# Descriptors from wire bytes

What the values of a descriptor message mean: of a member that occurs once the last value counts,
of one that is a message all occurrences together are one, and lists keep every value.
-/

namespace Wiregen.Descriptor

namespace Items

/-- The texts of a field. -/
def texts (items : Items) (number : Nat) : List String :=
  items.filterMap fun
    | (n, .text s) => if n = number then some s else none
    | _ => none

/-- The numbers of a field. -/
def numbers (items : Items) (number : Nat) : List Nat :=
  items.filterMap fun
    | (n, .number value) => if n = number then some value else none
    | _ => none

/-- The messages of a field. -/
def records (items : Items) (number : Nat) : List Items :=
  items.filterMap fun
    | (n, .record content) => if n = number then some content else none
    | _ => none

/-- The last text of a field. -/
def text? (items : Items) (number : Nat) : Option String := (texts items number).getLast?

/-- The last number of a field, cut to 32 bits. -/
def word? (items : Items) (number : Nat) : Option Int32 :=
  (numbers items number).getLast?.map Int32.ofNat

/-- A message of a field that occurs once: its occurrences as one, if there are any. -/
def record? (items : Items) (number : Nat) : Option Items :=
  match records items number with
  | [] => none
  | occurrences => some occurrences.flatten

end Items

/-- A field from its values. -/
def Field.ofItems (items : Items) : Field where
  name := items.text? 1
  number := items.word? 3
  type := items.word? 5
  label := items.word? 4
  typeName := items.text? 6
  oneofIndex := items.word? 9

/-- A message from its values, with the messages that are nested in it. -/
def Message.ofItems (items : Items) (nested : List Message) : Message where
  name := items.text? 1
  fields := (items.records 2).map Field.ofItems
  nested
  mapEntry := (items.record? 7).bind fun options => (options.numbers 7).getLast?.map (· ≠ 0)

mutual

/-- The message that a value is, if it is that of the given field. -/
def messageOfItem (number n : Nat) : Item → List Message
  | .record items => if n = number then [.ofItems items (messagesOf 3 items)] else []
  | .number _ | .text _ => []

/-- The messages of a field, each with those nested in it. -/
def messagesOf (number : Nat) : Items → List Message
  | [] => []
  | (n, item) :: others => messageOfItem number n item ++ messagesOf number others

end

/-- A location from its values. -/
def Location.ofItems (items : Items) : Location where
  path := (items.numbers 1).map Int32.ofNat
  leading := items.text? 3
  trailing := items.text? 4

/-- A file from its values. -/
def File.ofItems (items : Items) : File where
  name := items.text? 1
  package := items.text? 2
  messages := messagesOf 4 items
  info := (items.record? 9).map fun info => (info.records 1).map Location.ofItems

/-- The files of a descriptor set. -/
def readSet (bytes : Wire.Bytes) : Except Unreadable (List File) := do
  let items ← readItems maxDepth .set bytes
  return (items.records 1).map File.ofItems

end Wiregen.Descriptor
