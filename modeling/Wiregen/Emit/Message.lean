import Wiregen.Emit.Field

/-!
# The code of messages

Every message of a file except map entries becomes a type and a codec, parents before the messages
declared in them. They share one scope, so neither the local names of messages nor the members of a
message may clash.
-/

namespace Wiregen.Emit

open Target (Arm Attribute Expr Function Ident Item Path Stmt Ty)

/-! ## Members that clash -/

/-- The first identifier that occurs in `seen` or before its place in the list. -/
def firstRepeat (seen : List Ident) : List Ident → Option Ident
  | [] => none
  | ident :: others => if ident ∈ seen then some ident else firstRepeat (ident :: seen) others

/-- The code of the fields of a message, in their order; `seen` are the members of earlier ones. A
field that would use a member again is the end. -/
def fieldCodes (ctx : Context) (message : Schema.Message) :
    (seen : List Ident) → List Schema.Field → Reported (List FieldCode)
  | _, [] => pure []
  | seen, field :: others => do
    let code ← fieldCode ctx message.fullName field
    match firstRepeat seen code.idents with
    | some ident =>
      Reported.fail (.malformedSchema message.fullName
        ("field " ++ field.name ++ " maps to member " ++ ident.text ++ ", which is already used"))
    | none => return code :: (← fieldCodes ctx message (seen ++ code.idents) others)

/-! ## Items -/

/-- An attribute whose items are names. -/
def attributeOf (name : String) (items : List String) : Attribute :=
  ⟨name, items.map fun item => .ofNames [item]⟩

/-- What a message's type derives. -/
def typeAttributes : List Attribute :=
  [attributeOf "allow" ["non_snake_case"],
    attributeOf "derive" ["Debug", "Clone", "Default", "PartialEq"]]

/-- The mutable borrow of a buffer of bytes. -/
def bufferType : Ty := .borrow true (.vec (.named "u8"))

/-- Writes a message into a buffer of its own. -/
def encodeFunction (ident : Ident) : Function :=
  { attributes := []
    name := "encode"
    parameters := [("msg", .borrow false (.named ident.text))]
    returns := some (.vec (.named "u8"))
    body :=
      [.bind (.name true "buf") none (.callPath (.ofNames ["Vec", "new"]) []),
        .run (.callPath (.ofNames ["Self", "encode_to"]) [.var "msg", .borrow true (.var "buf")]),
        .result (.var "buf")] }

/-- Appends a message to a buffer. -/
def encodeToFunction (ident : Ident) (body : List Stmt) : Function :=
  { attributes := [attributeOf "allow" ["unused_variables"]]
    name := "encode_to"
    parameters := [("msg", .borrow false (.named ident.text)), ("buf", bufferType)]
    returns := none
    body }

/-- Reads records up to the end of the input, and passes over those of unknown keys. -/
def decodeFunction (runtime : Path) (ident : Ident) (arms : List Arm) : Function :=
  let skipped : Expr :=
    .propagate (.callPath (runtime.child "skip_field")
      [.var "data", .var "pos", .binary (.var "key") "&" (.number 7)])
  { attributes :=
      [⟨"allow", [.ofNames ["unused_mut"], .ofNames ["clippy", "match_single_binding"]]⟩]
    name := "decode"
    parameters := [("data", .borrow false (.slice (.named "u8")))]
    returns := some (.generic "Result" [.named ident.text, .path (runtime.child "DecodeError")])
    body :=
      [.bind (.name true "msg") none (.callPath (.ofNames [ident.text, "default"]) []),
        startAt "pos",
        untilEnd "pos" "data"
          [.bind (.pair "key" "next") none
            (.propagate (.callPath (runtime.child "decode_key") [.var "data", .var "pos"])),
            moveTo "pos" "next",
            .select (.var "key") arms (.assign (.var "pos") skipped)],
        .result (.call (.var "Ok") [.var "msg"])] }

/-- The items of a message: its type, its codec's type and the functions of the codec. -/
def itemsOf (ctx : Context) (message : Schema.Message) (ident codec : Ident)
    (codes : List FieldCode) : List Item :=
  [.struct (docLines ctx message.doc ++ codes.filterMap (·.marker)) typeAttributes ident.text
      (codes.flatMap (·.members)),
    .unitStruct codec.text,
    .implementation codec.text
      [encodeFunction ident,
        encodeToFunction ident (codes.flatMap (·.encode)),
        decodeFunction ctx.runtime ident (codes.flatMap (·.arms))]]

/-- The code of a message, without that of the messages declared in it. -/
def messageItems (ctx : Context) (message : Schema.Message) : Reported (List Item) := do
  let ident ← .ofExcept (identifier message.name (Naming.messageIdent? message.name))
  let codec ← .ofExcept (identifier message.name (Naming.codecIdent? message.name))
  let codes ← fieldCodes ctx message [] message.fields
  return itemsOf ctx message ident codec codes

/-! ## Files -/

/-- The messages of a file that get code. -/
def emittedMessages (file : Schema.File) : List Schema.Message :=
  file.walk.filter (!·.isMapEntry)

/-- The first message whose local name one before it has, with the full name of that one. -/
def firstClash : (seen : List Schema.Message) → List Schema.Message →
    Option (Schema.Message × String)
  | _, [] => none
  | seen, message :: others =>
    match seen.find? (·.name = message.name) with
    | some previous => some (message, previous.fullName)
    | none => firstClash (message :: seen) others

/-- The code of a file. -/
def fileItems (ctx : Context) (file : Schema.File) : Reported (List Item) :=
  let messages := emittedMessages file
  match firstClash [] messages with
  | some (message, previous) =>
    Reported.fail (.malformedSchema message.fullName
      ("local name " ++ message.name ++ " is already used by " ++ previous))
  | none => List.flatten <$> Reported.each (messageItems ctx) messages

end Wiregen.Emit
