import Wiregen.Emit.Value
import Wiregen.Text.Pieces

/-!
# The code of a field

Each shape of field has one rule for the members it becomes, the statements that write it and the
arms that read it. The code refers to these names: where it writes, `msg` is the message and `buf`
the buffer; where it reads, `msg` is the message so far, `data` the input and `pos` the position.
-/

namespace Wiregen.Emit

open Schema (Shape)
open Target (Arm Expr Ident Member Path Stmt Ty)
open Wire (WireType mapKeyNumber mapValueNumber tag)

/-- What emitted code depends on besides the schema. -/
structure Context where
  /-- Where the emitted code finds the runtime. -/
  runtime : Path
  /-- Whether comments of the schema become documentation. -/
  comments : Bool
  deriving DecidableEq, Repr

/-- The code of one field. -/
structure FieldCode where
  members : List Member := []
  /-- The identifiers of the members, in their order. -/
  idents : List Ident := []
  encode : List Stmt := []
  arms : List Arm := []
  /-- Why there is no code, for a field that is left out. -/
  marker : Option String := none

/-- The lines of documentation that a comment becomes. -/
def docLines (ctx : Context) (doc : Option String) : List String :=
  match doc with
  | some text =>
    if ctx.comments then (Text.lines text.toList).map fun line => String.ofList (' ' :: line)
    else []
  | none => []

/-- The member of a message that is written or read. -/
def memberOf (ident : Ident) : Expr := .member (.var "msg") ident.text

/-- The end of an arm: the position moves behind the value. -/
def moveTo (position behind : String) : Stmt := .run (.assign (.var position) (.var behind))

/-- The statement that appends a value to a member. -/
def push (ident : Ident) (value : String) : Stmt :=
  .run (.method (memberOf ident) "push" [.var value])

/-- The binding of a block and the position behind it. -/
def bindBlock (ctx : Context) (block : String) : Stmt :=
  .bind (.pair block "end") none
    (.propagate (.callPath (ctx.runtime.child "decode_length_delimited") [.var "data", .var "pos"]))

/-- A position in a block, from its start on. -/
def startAt (position : String) : Stmt := .bind (.name true position) none (.literal "0usize")

/-- A loop over a block, up to its end. -/
def untilEnd (position block : String) (body : List Stmt) : Stmt :=
  .whileLoop (.binary (.var position) "<" (.method (.var block) "len" [])) body

/-! ## Fields of one value -/

/-- A scalar is always written, and the last one read counts. -/
def scalarField (ctx : Context) (docs : List String) (ident : Ident) (number : UInt32)
    (form : ValueForm) : FieldCode :=
  let key := tag number form.wireType
  { members := [⟨docs, ident.text, form.type⟩]
    idents := [ident]
    encode := form.encode ctx.runtime (.var "buf") key (memberOf ident)
    arms := [.mk key
      (form.decode ctx.runtime "data" "pos" "end"
        ++ [.run (.assign (memberOf ident) (.var "decoded")), moveTo "pos" "end"])] }

/-- A message is written if it is there, and the last one read counts as a whole. It is behind a
pointer, so that messages may hold messages of their own type. -/
def messageField (ctx : Context) (docs : List String) (ident : Ident) (number : UInt32)
    (form : ValueForm) : FieldCode :=
  let key := tag number form.wireType
  let present : Expr :=
    .call (.var "Some") [.callPath (.ofNames ["Box", "new"]) [.var "decoded"]]
  { members := [⟨docs, ident.text, .optionalBox form.type⟩]
    idents := [ident]
    encode := [.ifSome "value" (.borrow false (memberOf ident))
      (form.encode ctx.runtime (.var "buf") key (.deref (.deref (.var "value"))))]
    arms := [.mk key
      (form.decode ctx.runtime "data" "pos" "end"
        ++ [.run (.assign (memberOf ident) present), moveTo "pos" "end"])] }

/-! ## Fields of many values -/

/-- The arm that reads a block of values side by side. -/
def packedArm (ctx : Context) (ident : Ident) (number : UInt32) (form : ValueForm) : Arm :=
  .mk (tag number .lengthDelimited)
    [bindBlock ctx "packed",
      startAt "packed_pos",
      untilEnd "packed_pos" "packed"
        (form.decode ctx.runtime "packed" "packed_pos" "next"
          ++ [push ident "decoded", moveTo "packed_pos" "next"]),
      moveTo "pos" "end"]

/-- Values are written one record each, and read in either form where they can be packed. -/
def repeatedField (ctx : Context) (docs : List String) (ident : Ident) (number : UInt32)
    (form : ValueForm) : FieldCode :=
  let key := tag number form.wireType
  let single : Arm := .mk key
    (form.decode ctx.runtime "data" "pos" "end" ++ [push ident "decoded", moveTo "pos" "end"])
  { members := [⟨docs, ident.text, .vec form.type⟩]
    idents := [ident]
    encode := [.forLoop (.name false "value") (.borrow false (memberOf ident))
      (form.encode ctx.runtime (.var "buf") key (.deref (.var "value")))]
    arms := single :: if form.wireType.packable then [packedArm ctx ident number form] else [] }

/-! ## Map fields -/

/-- The arm of an entry's key or value: it is read, and the last one read counts. -/
def entryArm (ctx : Context) (number : UInt32) (form : ValueForm) (target : String) : Arm :=
  .mk (tag number form.wireType)
    (form.decode ctx.runtime "entry" "entry_pos" "next"
      ++ [.run (.assign (.var target) (.var "decoded")), moveTo "entry_pos" "next"])

/-- Keys and values are two lists of equal length, written as entries of one key and one value. -/
def mapField (ctx : Context) (docs : List String) (keys values : Ident) (number : UInt32)
    (key value : ValueForm) : FieldCode :=
  let runtime := ctx.runtime
  let outer := tag number .lengthDelimited
  let entryBuffer : Expr := .borrow true (.var "entry")
  let pairs : Expr :=
    .method (.method (memberOf keys) "iter" []) "zip" [.borrow false (memberOf values)]
  let refused : Expr :=
    .giveBack (.call (.var "Err")
      [.callPath ((runtime.child "DecodeError").child "UnexpectedMapEntryTag") [.var "entry_tag"]])
  { members := [⟨docs, keys.text, .vec key.type⟩, ⟨docs, values.text, .vec value.type⟩]
    idents := [keys, values]
    encode :=
      [.assertSameLength keys.text values.text,
        .forLoop (.pair "key" "value") pairs
          ([.bind (.name true "entry") none (.callPath (.ofNames ["Vec", "new"]) [])]
            ++ key.encode runtime entryBuffer (tag mapKeyNumber key.wireType) (.deref (.var "key"))
            ++ value.encode runtime entryBuffer (tag mapValueNumber value.wireType)
              (.deref (.var "value"))
            ++ [.run (.callPath (runtime.child "encode_key") [.var "buf", .number outer.toNat]),
              .run (.callPath (runtime.child "encode_bytes")
                [.var "buf", .borrow false (.var "entry")])])]
    arms := [.mk outer
      [bindBlock ctx "entry",
        .bind (.name true "entry_key") (some key.type) key.default,
        .bind (.name true "entry_value") (some value.type) value.default,
        startAt "entry_pos",
        untilEnd "entry_pos" "entry"
          [.bind (.pair "entry_tag" "next") none
            (.propagate
              (.callPath (runtime.child "decode_key") [.var "entry", .var "entry_pos"])),
            moveTo "entry_pos" "next",
            .select (.var "entry_tag")
              [entryArm ctx mapKeyNumber key "entry_key",
                entryArm ctx mapValueNumber value "entry_value"]
              refused],
        push keys "entry_key",
        push values "entry_value",
        moveTo "pos" "end"]] }

/-! ## Any field -/

/-- The code of a field of a given shape. -/
def codeOf (ctx : Context) (field : Schema.Field) (shape : Shape ValueForm) :
    Except Halt FieldCode :=
  let docs := docLines ctx field.doc
  let number := field.number.toUInt32
  match shape with
  | .singular form => do
    let ident ← identifier field.name (Naming.fieldIdent? field.name)
    return match form with
      | .scalar _ => scalarField ctx docs ident number form
      | .message .. => messageField ctx docs ident number form
  | .repeated form => do
    let ident ← identifier field.name (Naming.fieldIdent? field.name)
    return repeatedField ctx docs ident number form
  | .map key value => do
    let keys ← identifier field.name (Naming.mapKeysIdent? field.name)
    let values ← identifier field.name (Naming.mapValuesIdent? field.name)
    return mapField ctx docs keys values number key value

/-- What stands in the documentation of a message for a field that is left out. -/
def skipMarker (field : Schema.Field) (reason : String) : String :=
  " protocodec: field `" ++ field.name ++ "` (" ++ toString field.number.toInt ++ ") skipped: "
    ++ reason

/-- The code of a field of the message `owner`. A field whose type has no codec is left out, with a
marker and a report; any other failure is that of the whole file. -/
def fieldCode (ctx : Context) (owner : String) (field : Schema.Field) : Reported FieldCode :=
  match shapeOf field with
  | .ok shape => .ofExcept (codeOf ctx field shape)
  | .error (.failed (.unsupportedFieldType code)) => do
    let reason := (Failure.unsupportedFieldType code).message
    Reported.report ⟨owner, field.name, reason⟩
    return { marker := some (skipMarker field reason) }
  | .error halt => .ofExcept (.error halt)

end Wiregen.Emit
