import Wiregen.Sample.Schema

/-!
# The catalog of the sample schema

The messages of the sample that have codecs, in their order. `ofFile?_sample` says that these are
the ones that the schema file describes.
-/

namespace Wiregen.Sample

open Codec (Catalog Element Field MessagePlan)
open Wire (Scalar)

/-- A field of one scalar. -/
def scalarField {n : Nat} (name : String) (number : UInt32) (s : Scalar) : Field n :=
  ⟨name, number, .singular (.scalar s)⟩

/-- A field of one message. -/
def messageField {n : Nat} (name : String) (number : UInt32) (i : Fin n) : Field n :=
  ⟨name, number, .singular (.message i)⟩

/-- A field of many values. -/
def listField {n : Nat} (name : String) (number : UInt32) (element : Element n) : Field n :=
  ⟨name, number, .repeated element⟩

/-- A map field. -/
def mapField {n : Nat} (name : String) (number : UInt32) (key value : Element n) : Field n :=
  ⟨name, number, .map key value⟩

/-- The messages of the sample. -/
def catalog : Catalog where
  size := 11
  messages := #v[
    ⟨"Scalars",
      [scalarField "f_double" 1 .double, scalarField "f_float" 2 .float,
        scalarField "f_int64" 3 .int64, scalarField "f_uint64" 4 .uint64,
        scalarField "f_int32" 5 .int32, scalarField "f_fixed64" 6 .fixed64,
        scalarField "f_fixed32" 7 .fixed32, scalarField "f_bool" 8 .bool,
        scalarField "f_string" 9 .string, scalarField "f_bytes" 12 .bytes,
        scalarField "f_uint32" 13 .uint32, scalarField "f_enum" 14 .enum,
        scalarField "f_sfixed32" 15 .sfixed32, scalarField "f_sfixed64" 16 .sfixed64,
        scalarField "f_sint32" 17 .sint32, scalarField "f_sint64" 18 .sint64]⟩,
    ⟨"Inner", [scalarField "x" 1 .int32, scalarField "label" 2 .string]⟩,
    ⟨"Outer",
      [messageField "child" 1 1, listField "children" 2 (.message 1),
        listField "deltas" 3 (.scalar .sint64), listField "names" 4 (.scalar .string),
        mapField "labels" 5 (.scalar .int32) (.scalar .string),
        mapField "lookup" 6 (.scalar .string) (.message 1),
        messageField "middle" 7 3, scalarField "display_name" 8 .string]⟩,
    ⟨"Middle", [messageField "leaf" 1 4]⟩,
    ⟨"Leaf", [scalarField "depth" 1 .uint32]⟩,
    ⟨"Batch", [listField "ids" 1 (.scalar .uint64), listField "items" 2 (.message 1)]⟩,
    ⟨"Legacy", [scalarField "id" 1 .int32, scalarField "note" 3 .string]⟩,
    ⟨"Blob", [scalarField "a" 1 .int32]⟩,
    ⟨"Node", [scalarField "value" 1 .int32, messageField "next" 2 8]⟩,
    ⟨"Author", [scalarField "name" 1 .string, messageField "latest" 2 10]⟩,
    ⟨"Book", [scalarField "title" 1 .string, messageField "author" 2 9]⟩]

/-- The catalog is that of the schema file. -/
theorem ofFile?_sample :
    (Schema.ofDescriptor file).toOption.bind Catalog.ofFile? = some catalog := by
  decide +kernel

end Wiregen.Sample
