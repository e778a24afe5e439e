/-!
# The messages that descriptors are written in

A descriptor file is itself a message, made of messages. For each of them this says which fields it
has and what a field's payload is, for the fields that matter here and for all others: a payload of
the wrong kind makes the whole file unreadable.
-/

namespace Wiregen.Descriptor

/-- A kind of message in descriptor files and plugin requests. -/
inductive Kind where
  | request
  | version
  | set
  | file
  | message
  | extensionRange
  | reservedRange
  | field
  | oneof
  | enum
  | enumValue
  | service
  | method
  | fileOptions
  | messageOptions
  | fieldOptions
  | enumOptions
  | enumValueOptions
  | methodOptions
  | serviceOptions
  /-- Options that hold nothing but what no tool knew. -/
  | bareOptions
  | uninterpretedOption
  | namePart
  | sourceInfo
  | location
  deriving DecidableEq, Repr

/-- What the payload of a field is. -/
inductive Payload where
  /-- One number. -/
  | number
  /-- Numbers, one to a record or side by side in a block. -/
  | numbers
  | double
  | text
  | bytes
  | message (kind : Kind)
  deriving DecidableEq, Repr

/-- The payload of the options that no tool knew, in every message of options. -/
def uninterpreted (number : Nat) : Option Payload :=
  if number = 999 then some (.message .uninterpretedOption) else none

/-- The payload of a field by its number. -/
def Kind.payload? : Kind → Nat → Option Payload
  | .request, 1 | .request, 2 => some .text
  | .request, 3 => some (.message .version)
  | .request, 15 => some (.message .file)
  | .version, 1 | .version, 2 | .version, 3 => some .number
  | .version, 4 => some .text
  | .set, 1 => some (.message .file)
  | .file, 1 | .file, 2 | .file, 3 | .file, 12 => some .text
  | .file, 4 => some (.message .message)
  | .file, 5 => some (.message .enum)
  | .file, 6 => some (.message .service)
  | .file, 7 => some (.message .field)
  | .file, 8 => some (.message .fileOptions)
  | .file, 9 => some (.message .sourceInfo)
  | .file, 10 | .file, 11 => some .numbers
  | .message, 1 | .message, 10 => some .text
  | .message, 2 | .message, 6 => some (.message .field)
  | .message, 3 => some (.message .message)
  | .message, 4 => some (.message .enum)
  | .message, 5 => some (.message .extensionRange)
  | .message, 7 => some (.message .messageOptions)
  | .message, 8 => some (.message .oneof)
  | .message, 9 => some (.message .reservedRange)
  | .extensionRange, 1 | .extensionRange, 2 => some .number
  | .extensionRange, 3 => some (.message .bareOptions)
  | .reservedRange, 1 | .reservedRange, 2 => some .number
  | .field, 1 | .field, 2 | .field, 6 | .field, 7 | .field, 10 => some .text
  | .field, 3 | .field, 4 | .field, 5 | .field, 9 | .field, 17 => some .number
  | .field, 8 => some (.message .fieldOptions)
  | .oneof, 1 => some .text
  | .oneof, 2 => some (.message .bareOptions)
  | .enum, 1 | .enum, 5 => some .text
  | .enum, 2 => some (.message .enumValue)
  | .enum, 3 => some (.message .enumOptions)
  | .enum, 4 => some (.message .reservedRange)
  | .enumValue, 1 => some .text
  | .enumValue, 2 => some .number
  | .enumValue, 3 => some (.message .enumValueOptions)
  | .service, 1 => some .text
  | .service, 2 => some (.message .method)
  | .service, 3 => some (.message .serviceOptions)
  | .method, 1 | .method, 2 | .method, 3 => some .text
  | .method, 4 => some (.message .methodOptions)
  | .method, 5 | .method, 6 => some .number
  | .fileOptions, 1 | .fileOptions, 8 | .fileOptions, 11 | .fileOptions, 36 | .fileOptions, 37
  | .fileOptions, 39 | .fileOptions, 40 | .fileOptions, 41 | .fileOptions, 44
  | .fileOptions, 45 => some .text
  | .fileOptions, 9 | .fileOptions, 10 | .fileOptions, 16 | .fileOptions, 17 | .fileOptions, 18
  | .fileOptions, 20 | .fileOptions, 23 | .fileOptions, 27 | .fileOptions, 31
  | .fileOptions, 42 => some .number
  | .messageOptions, 1 | .messageOptions, 2 | .messageOptions, 3
  | .messageOptions, 7 => some .number
  | .fieldOptions, 1 | .fieldOptions, 2 | .fieldOptions, 3 | .fieldOptions, 5 | .fieldOptions, 6
  | .fieldOptions, 10 => some .number
  | .enumOptions, 2 | .enumOptions, 3 => some .number
  | .enumValueOptions, 1 => some .number
  | .methodOptions, 33 | .methodOptions, 34 => some .number
  | .serviceOptions, 33 => some .number
  | .fileOptions, n | .messageOptions, n | .fieldOptions, n | .enumOptions, n
  | .enumValueOptions, n | .methodOptions, n | .serviceOptions, n
  | .bareOptions, n => uninterpreted n
  | .uninterpretedOption, 2 => some (.message .namePart)
  | .uninterpretedOption, 3 | .uninterpretedOption, 8 => some .text
  | .uninterpretedOption, 4 | .uninterpretedOption, 5 => some .number
  | .uninterpretedOption, 6 => some .double
  | .uninterpretedOption, 7 => some .bytes
  | .namePart, 1 => some .text
  | .namePart, 2 => some .number
  | .sourceInfo, 1 => some (.message .location)
  | .location, 1 | .location, 2 => some .numbers
  | .location, 3 | .location, 4 | .location, 6 => some .text
  | _, _ => none

end Wiregen.Descriptor
