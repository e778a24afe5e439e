import Wiregen.Codec.Catalog
import Wiregen.Codec.Decode
import Wiregen.Codec.Encode
import Wiregen.Codec.Message
import Wiregen.Descriptor.Basic
import Wiregen.Descriptor.Layout
import Wiregen.Descriptor.OfWire
import Wiregen.Descriptor.Wire
import Wiregen.Emit.Field
import Wiregen.Emit.Message
import Wiregen.Emit.Reported
import Wiregen.Emit.RuntimeText
import Wiregen.Emit.Unit
import Wiregen.Emit.Value
import Wiregen.Failure
import Wiregen.Main
import Wiregen.Naming
import Wiregen.Proofs.Codec.Absorb
import Wiregen.Proofs.Codec.Appending
import Wiregen.Proofs.Codec.Balanced
import Wiregen.Proofs.Codec.Concat
import Wiregen.Proofs.Codec.Entry
import Wiregen.Proofs.Codec.Loops
import Wiregen.Proofs.Codec.Meaning
import Wiregen.Proofs.Codec.Packed
import Wiregen.Proofs.Codec.Place
import Wiregen.Proofs.Codec.Record
import Wiregen.Proofs.Codec.Refusal
import Wiregen.Proofs.Codec.RoundTrip
import Wiregen.Proofs.Codec.Written
import Wiregen.Proofs.Emit.Agreement
import Wiregen.Proofs.Emit.Comments
import Wiregen.Proofs.Emit.Documentation
import Wiregen.Proofs.Emit.Keys
import Wiregen.Proofs.Emit.Members
import Wiregen.Proofs.Emit.Names
import Wiregen.Proofs.Emit.Omitted
import Wiregen.Proofs.Emit.Reference
import Wiregen.Proofs.Emit.Reported
import Wiregen.Proofs.Emit.Scope
import Wiregen.Proofs.Emit.Structs
import Wiregen.Proofs.LetterCase
import Wiregen.Proofs.Naming
import Wiregen.Proofs.Run.Below
import Wiregen.Proofs.Run.Disk
import Wiregen.Proofs.Run.Generate
import Wiregen.Proofs.Run.Options
import Wiregen.Proofs.Run.Outcome
import Wiregen.Proofs.Run.Path
import Wiregen.Proofs.Run.Respond
import Wiregen.Proofs.Run.SetAndRequest
import Wiregen.Proofs.Run.Tree
import Wiregen.Proofs.Run.Written
import Wiregen.Proofs.Sample.Buffers
import Wiregen.Proofs.Sample.Codecs
import Wiregen.Proofs.Sample.Loops
import Wiregen.Proofs.Sample.Records
import Wiregen.Proofs.Schema.Comments
import Wiregen.Proofs.Schema.Declared
import Wiregen.Proofs.Schema.OfDescriptor
import Wiregen.Proofs.Schema.Places
import Wiregen.Proofs.Schema.Shape
import Wiregen.Proofs.Schema.WellFormed
import Wiregen.Proofs.Schema.WithoutDocs
import Wiregen.Proofs.Target.Identifier
import Wiregen.Proofs.Target.Views
import Wiregen.Proofs.Text.Blank
import Wiregen.Proofs.Text.Identifier
import Wiregen.Proofs.Text.Lines
import Wiregen.Proofs.Text.Pieces
import Wiregen.Proofs.Text.Uppercase
import Wiregen.Proofs.UnitPath
import Wiregen.Proofs.Wire.Boundary
import Wiregen.Proofs.Wire.Loop
import Wiregen.Proofs.Wire.Payload
import Wiregen.Proofs.Wire.Primitive
import Wiregen.Proofs.Wire.Reader
import Wiregen.Proofs.Wire.Shortest
import Wiregen.Proofs.Wire.Skip
import Wiregen.Proofs.Wire.Slice
import Wiregen.Proofs.Wire.Split
import Wiregen.Proofs.Wire.Tag
import Wiregen.Proofs.Wire.Varint
import Wiregen.Proofs.Wire.Widening
import Wiregen.Run.CommandLine
import Wiregen.Run.Disk
import Wiregen.Run.Generate
import Wiregen.Run.Options
import Wiregen.Run.Path
import Wiregen.Run.Plugin
import Wiregen.Sample.Build
import Wiregen.Sample.Catalog
import Wiregen.Sample.Schema
import Wiregen.Schema.Basic
import Wiregen.Schema.Comments
import Wiregen.Schema.FieldType
import Wiregen.Schema.OfDescriptor
import Wiregen.Target.Identifier
import Wiregen.Target.Layout
import Wiregen.Target.Path
import Wiregen.Target.PathText
import Wiregen.Target.Pretty
import Wiregen.Target.Spelling
import Wiregen.Target.Syntax
import Wiregen.Target.Token
import Wiregen.Text.CharacterClass
import Wiregen.Text.Pieces
import Wiregen.Text.Quoted
import Wiregen.Text.Uppercase
import Wiregen.Wire.Basic
import Wiregen.Wire.Key
import Wiregen.Wire.Number
import Wiregen.Wire.Scalar
