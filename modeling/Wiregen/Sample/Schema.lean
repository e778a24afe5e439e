import Wiregen.Codec.Catalog
import Wiregen.Schema.OfDescriptor

/-!
# A sample schema

A schema file with a field of every scalar type and of every shape, nested and recursive messages, a
field without a codec, and comments. Its units are what a build of the codecs is tried on, and its
catalog is what their behaviour is stated on.
-/

namespace Wiregen.Sample

open Descriptor (Field File Location Message)

/-- The package of the sample. -/
def package : String := "codegen.test"

/-! ## Fields and messages -/

/-- A field of a type by its number. -/
def field (name : String) (number type : Int32) : Field :=
  { name := some name, number := some number, type := some type, label := some 1 }

/-- The field as a list. -/
def repeated (f : Field) : Field := { f with label := some 3 }

/-- The field with its type named. -/
def typed (f : Field) (typeName : String) : Field :=
  { f with typeName := some ("." ++ package ++ "." ++ typeName) }

/-- A message with its fields and those declared in it. -/
def message (name : String) (fields : List Field) (nested : List Message) : Message :=
  { name := some name, fields, nested }

/-- The entry message of a map field. -/
def mapEntry (name : String) (key value : Field) : Message :=
  { message name [key, value] [] with mapEntry := some true }

/-- A field of every scalar type. -/
def scalars : Message :=
  message "Scalars"
    [field "f_double" 1 1, field "f_float" 2 2, field "f_int64" 3 3, field "f_uint64" 4 4,
      field "f_int32" 5 5, field "f_fixed64" 6 6, field "f_fixed32" 7 7, field "f_bool" 8 8,
      field "f_string" 9 9, field "f_bytes" 12 12, field "f_uint32" 13 13,
      typed (field "f_enum" 14 14) "Color", field "f_sfixed32" 15 15, field "f_sfixed64" 16 16,
      field "f_sint32" 17 17, field "f_sint64" 18 18]
    []

/-- A message that others hold. -/
def inner : Message := message "Inner" [field "x" 1 5, field "label" 2 9] []

/-- The innermost of three messages declared in each other. -/
def leaf : Message := message "Leaf" [field "depth" 1 13] []

/-- The middle one of three. -/
def middle : Message := message "Middle" [typed (field "leaf" 1 11) "Outer.Middle.Leaf"] [leaf]

/-- A field of every shape. -/
def outer : Message :=
  message "Outer"
    [typed (field "child" 1 11) "Inner", repeated (typed (field "children" 2 11) "Inner"),
      repeated (field "deltas" 3 18), repeated (field "names" 4 9),
      repeated (typed (field "labels" 5 11) "Outer.LabelsEntry"),
      repeated (typed (field "lookup" 6 11) "Outer.LookupEntry"),
      typed (field "middle" 7 11) "Outer.Middle", field "display_name" 8 9]
    [mapEntry "LabelsEntry" (field "key" 1 5) (field "value" 2 9),
      mapEntry "LookupEntry" (field "key" 1 9) (typed (field "value" 2 11) "Inner"),
      middle]

/-- Lists only. -/
def batch : Message :=
  message "Batch"
    [repeated (field "ids" 1 4), repeated (typed (field "items" 2 11) "Inner")] []

/-- A group among other fields. -/
def legacy : Message :=
  message "Legacy"
    [field "id" 1 5, typed (field "blob" 2 10) "Legacy.Blob", field "note" 3 9]
    [message "Blob" [field "a" 1 5] []]

/-- A message that holds its own kind. -/
def node : Message := message "Node" [field "value" 1 5, typed (field "next" 2 11) "Node"] []

/-- One of two messages that hold each other. -/
def author : Message := message "Author" [field "name" 1 9, typed (field "latest" 2 11) "Book"] []

/-- The other one. -/
def book : Message := message "Book" [field "title" 1 9, typed (field "author" 2 11) "Author"] []

/-- The sample file. -/
def file : File :=
  { name := some "codegen/codegen_tests.proto"
    package := some package
    messages := [scalars, inner, outer, batch, legacy, node, author, book]
    info := some
      [{ path := [4, 2], leading := some " Exercises every field shape.\n" },
        { path := [4, 2, 2, 4], leading := some " Stored as labelsKeys / labelsValues.\n" }] }

end Wiregen.Sample
