import Wiregen.Proofs.Emit.Keys

/-!
# What is written is what is read

The code that writes a field and the code that reads it are put together apart from each other, each
with keys of its own. They agree (`fieldCode_agrees`): the key that is written is the one of the
first arm and says the field's number and how the value is framed, the functions that write and read
the value belong together, and an entry of a map is written with the two keys that its reader
accepts.
-/

namespace Wiregen.Emit

open Schema (Shape)
open Target (Arm Expr Ident Path Stmt armsOf calleesOf callsOf)
open Wire (WireType mapKeyNumber mapValueNumber splitTag tag)

/-! ## Functions of values -/

/-- The functions that write a value of a form behind its key. -/
def ValueForm.writers (runtime : Path) : ValueForm → List Path
  | .scalar s => [runtime.child (encoderName s)]
  | .message _ codec => [runtime.child "encode_bytes", .ofNames [codec.text, "encode"]]

/-- The functions that read a value of a form. -/
def ValueForm.readers (runtime : Path) : ValueForm → List Path
  | .scalar s => [runtime.child (decoderName s)]
  | .message _ codec => [runtime.child "decode_length_delimited", .ofNames [codec.text, "decode"]]

/-- The keys that statements write, each with the buffer that it is written into. -/
def keysWritten (runtime : Path) (statements : List Stmt) : List (Expr × Expr) :=
  (callsOf statements).filterMap fun
    | (path, [buffer, key]) =>
      if path = runtime.child "encode_key" then some (buffer, key) else none
    | _ => none

/-- Names below the runtime are told apart. -/
@[simp] theorem child_inj {runtime : Path} {a b : String} :
    runtime.child a = runtime.child b ↔ a = b := by
  simp [Path.child]

/-- No scalar is written by the function that writes keys. -/
@[simp] theorem encoderName_ne_key (s : Wire.Scalar) : encoderName s ≠ "encode_key" := by
  cases s <;> decide

section
variable (form : ValueForm) (runtime : Path) {buffer place : Expr} (hbuffer : buffer.calls = [])
  (hplace : place.calls = [])
include hbuffer hplace

/-- The calls that write a value, with their arguments. -/
theorem ValueForm.callsOf_encode (key : UInt32) :
    callsOf (form.encode runtime buffer key place) =
      (runtime.child "encode_key", [buffer, .number key.toNat]) ::
        match form with
        | .scalar s =>
          [(runtime.child (encoderName s),
            [buffer, if isBorrowed s then .borrow false place else place])]
        | .message _ codec =>
          let arguments := [Expr.borrow false place]
          let nested := Expr.callPath (.ofNames [codec.text, "encode"]) arguments
          [(runtime.child "encode_bytes", [buffer, .borrow false nested]),
            (.ofNames [codec.text, "encode"], arguments)] := by
  cases form with
  | scalar s =>
    have hvalue : (if isBorrowed s then Expr.borrow false place else place).calls = [] := by
      split
      next => exact hplace
      next => exact hplace
    simp [encode, callsOf, Stmt.calls, Expr.calls, Target.callsIn, hbuffer, hvalue]
  | message type codec =>
    simp [encode, callsOf, Stmt.calls, Expr.calls, Target.callsIn, hbuffer, hplace]

/-- A value is written behind one key. -/
theorem ValueForm.keysWritten_encode (key : UInt32) :
    keysWritten runtime (form.encode runtime buffer key place) =
      [(buffer, .number key.toNat)] := by
  rw [keysWritten, form.callsOf_encode runtime hbuffer hplace]
  cases form with
  | scalar s => simp
  | message type codec => simp

/-- A value is written by the functions of its form, behind its key. -/
theorem ValueForm.calleesOf_encode (key : UInt32) :
    calleesOf (form.encode runtime buffer key place) =
      runtime.child "encode_key" :: form.writers runtime := by
  rw [calleesOf, form.callsOf_encode runtime hbuffer hplace]
  cases form <;> rfl

end

/-- A value is read by the functions of its form. -/
theorem ValueForm.calleesOf_decode (form : ValueForm) (runtime : Path)
    (input position behind : String) :
    calleesOf (form.decode runtime input position behind) = form.readers runtime := by
  cases form <;> rfl

/-! ## Fields -/

/-- An arm that stands for a field's number and a wire type, with no bit of the number lost. -/
structure StandsFor (arm : Arm) (number : Nat) (w : WireType) : Prop where
  key_eq : arm.key.toNat = number * 8 + w.number.toNat
  splitTag_eq : splitTag arm.key = (UInt32.ofNat number, some w)

/-- Statements that write values of a form as records of a field with a number, and an arm that
reads such a record and then calls the functions `wrap` on its value. -/
structure ValueAgrees (runtime : Path) (number : Nat) (form : ValueForm) (statements : List Stmt)
    (arm : Arm) (wrap : List Path) : Prop where
  standsFor : StandsFor arm number form.wireType
  keysWritten_eq : keysWritten runtime statements = [(.var "buf", .number arm.key.toNat)]
  writers_eq : calleesOf statements = runtime.child "encode_key" :: form.writers runtime
  readers_eq : calleesOf arm.body = form.readers runtime ++ wrap

/-- What is called on the value of a field of one value: a message is put behind a pointer. -/
def ValueForm.wrap : ValueForm → List Path
  | .scalar _ => []
  | .message .. => [.ofNames ["Some"], .ofNames ["Box", "new"]]

/-- An arm that reads a block of values of a form side by side. -/
structure ReadsPacked (runtime : Path) (number : Nat) (form : ValueForm) (arm : Arm) : Prop where
  standsFor : StandsFor arm number .lengthDelimited
  readers_eq :
    calleesOf arm.body = runtime.child "decode_length_delimited" :: form.readers runtime

/-- The buffer that an entry is written into. -/
def entryBuffer : Expr := .borrow true (.var "entry")

/-- Statements that write a key and a value as the entry of a map field with a number, and an arm
that reads such an entry with one arm for its key and one for its value; any other key in an entry
is refused. -/
structure EntryAgrees (runtime : Path) (number : Nat) (key value : ValueForm)
    (statements : List Stmt) (arm keyArm valueArm : Arm) : Prop where
  standsFor : StandsFor arm number .lengthDelimited
  key_standsFor : StandsFor keyArm 1 key.wireType
  value_standsFor : StandsFor valueArm 2 value.wireType
  keysWritten_eq : keysWritten runtime statements =
    [(entryBuffer, .number keyArm.key.toNat), (entryBuffer, .number valueArm.key.toNat),
      (.var "buf", .number arm.key.toNat)]
  writers_eq : calleesOf statements =
    .ofNames ["Vec", "new"] :: runtime.child "encode_key" :: key.writers runtime
      ++ runtime.child "encode_key" :: value.writers runtime
      ++ [runtime.child "encode_key", runtime.child "encode_bytes"]
  arms_eq : armsOf arm.body = [keyArm, valueArm]
  key_readers_eq : calleesOf keyArm.body = key.readers runtime
  value_readers_eq : calleesOf valueArm.body = value.readers runtime
  refused : ((runtime.child "DecodeError").child "UnexpectedMapEntryTag",
    [.var "entry_tag"]) ∈ callsOf arm.body

/-- The code of a field with a number whose writer and reader agree. A field has a second arm
exactly if it is a list of values that can be packed. -/
def CodeAgrees (runtime : Path) (number : Nat) (code : FieldCode) : Shape ValueForm → Prop
  | .singular form =>
    ∃ arm, code.arms = [arm] ∧ ValueAgrees runtime number form code.encode arm form.wrap
  | .repeated form =>
    ∃ arm, ValueAgrees runtime number form code.encode arm [] ∧
      if form.wireType = .lengthDelimited then code.arms = [arm]
      else ∃ packed, code.arms = [arm, packed] ∧ ReadsPacked runtime number form packed
  | .map key value =>
    ∃ arm keyArm valueArm, code.arms = [arm] ∧
      EntryAgrees runtime number key value code.encode arm keyArm valueArm

/-- An arm with the key of a small enough field number stands for that number and wire type. -/
theorem standsFor_tag {number : UInt32} (h : number.toNat < 2 ^ 29) (w : WireType)
    (body : List Stmt) : StandsFor (.mk (tag number w) body) number.toNat w where
  key_eq := Wire.tag_toNat h w
  splitTag_eq := by
    rw [Arm.key, Wire.splitTag_tag h, UInt32.ofNat_toNat]

/-! ## Statements around values -/

@[simp] theorem calls_moveTo (position behind : String) : (moveTo position behind).calls = [] := rfl

@[simp] theorem calls_push (ident : Ident) (value : String) : (push ident value).calls = [] := rfl

@[simp] theorem calls_startAt (position : String) : (startAt position).calls = [] := rfl

@[simp] theorem calls_bindBlock (ctx : Context) (block : String) : (bindBlock ctx block).calls =
    [(ctx.runtime.child "decode_length_delimited", [.var "data", .var "pos"])] := rfl

@[simp] theorem calls_untilEnd (position block : String) (body : List Stmt) :
    (untilEnd position block body).calls = callsOf body := rfl

/-- A value that is read, used by a statement without a call and left behind. -/
theorem calleesOf_read (form : ValueForm) (runtime : Path)
    (input position behind target moved : String) {last : Stmt} (h : last.calls = []) :
    calleesOf (form.decode runtime input position behind ++ [last, moveTo target moved]) =
      form.readers runtime := by
  have hlast : calleesOf [last, moveTo target moved] = [] := by
    rw [calleesOf, callsOf, h]
    rfl
  rw [Target.calleesOf_append, form.calleesOf_decode, hlast, List.append_nil]

/-- What the writer of a map calls: it writes the key and the value into an entry of its own, and
then the entry. -/
theorem callsOf_mapField (ctx : Context) (docs : List String) (keys values : Ident)
    (number : UInt32) (key value : ValueForm) :
    callsOf (mapField ctx docs keys values number key value).encode =
      (.ofNames ["Vec", "new"], []) ::
        (callsOf (key.encode ctx.runtime entryBuffer (tag mapKeyNumber key.wireType)
            (.deref (.var "key")))
          ++ callsOf (value.encode ctx.runtime entryBuffer (tag mapValueNumber value.wireType)
            (.deref (.var "value")))
          ++ [(ctx.runtime.child "encode_key",
                [.var "buf", .number (tag number .lengthDelimited).toNat]),
              (ctx.runtime.child "encode_bytes", [.var "buf", .borrow false (.var "entry")])]) := by
  simp [mapField, callsOf, Stmt.calls, Expr.calls, Target.callsIn, memberOf, entryBuffer]

/-- The arm of an entry's key or value. -/
theorem entryArm_agrees (ctx : Context) (number : UInt32) (hnumber : number.toNat < 2 ^ 29)
    (form : ValueForm) (target : String) :
    StandsFor (entryArm ctx number form target) number.toNat form.wireType ∧
      calleesOf (entryArm ctx number form target).body = form.readers ctx.runtime :=
  ⟨standsFor_tag hnumber _ _, calleesOf_read _ _ _ _ _ _ _ rfl⟩

/-! ## Fields of every shape -/

section
variable {number : UInt32} (hnumber : number.toNat < 2 ^ 29)
include hnumber

/-- Statements that call what writes a value, under the key of the arm, agree with an arm that calls
what reads one. -/
theorem valueAgrees {form : ValueForm} {runtime : Path} {statements body : List Stmt}
    {wrap : List Path} (place : Expr) (hplace : place.calls = [])
    (hcalls : callsOf statements =
      callsOf (form.encode runtime (.var "buf") (tag number form.wireType) place))
    (hread : calleesOf body = form.readers runtime ++ wrap) :
    ValueAgrees runtime number.toNat form statements (.mk (tag number form.wireType) body)
      wrap where
  standsFor := standsFor_tag hnumber _ _
  keysWritten_eq := by
    rw [keysWritten, hcalls]
    exact form.keysWritten_encode runtime rfl hplace _
  writers_eq := by
    rw [calleesOf, hcalls]
    exact form.calleesOf_encode runtime rfl hplace _
  readers_eq := hread

variable (ctx : Context) (docs : List String) (ident : Ident)

/-- The code of a field with one scalar agrees. -/
theorem scalarField_agrees (s : Wire.Scalar) :
    CodeAgrees ctx.runtime number.toNat (scalarField ctx docs ident number (.scalar s))
      (.singular (.scalar s)) := by
  refine ⟨_, rfl, valueAgrees hnumber (memberOf ident) rfl rfl ?_⟩
  exact (calleesOf_read _ ctx.runtime _ _ _ _ _ rfl).trans (List.append_nil _).symm

/-- The code of a field with one message agrees; one that is read is kept as a message there is. -/
theorem messageField_agrees (type codec : Ident) :
    CodeAgrees ctx.runtime number.toNat (messageField ctx docs ident number (.message type codec))
      (.singular (.message type codec)) :=
  ⟨_, rfl, valueAgrees hnumber (.deref (.deref (.var "value"))) rfl rfl rfl⟩

/-- The arm of a block calls what reads the block, and then what reads a value. -/
theorem packedArm_reads (form : ValueForm) :
    ReadsPacked ctx.runtime number.toNat form (packedArm ctx ident number form) where
  standsFor := standsFor_tag hnumber _ _
  readers_eq := by
    have hbody : calleesOf (packedArm ctx ident number form).body =
        ctx.runtime.child "decode_length_delimited" ::
          calleesOf (form.decode ctx.runtime "packed" "packed_pos" "next" ++
            [push ident "decoded", moveTo "packed_pos" "next"]) := by
      simp [packedArm, Arm.body, calleesOf, callsOf]
    rw [hbody, calleesOf_read _ _ _ _ _ _ _ (calls_push ident "decoded")]

/-- The code of a list agrees, with a second arm for packed blocks if it is one of numbers. -/
theorem repeatedField_agrees (form : ValueForm) :
    CodeAgrees ctx.runtime number.toNat (repeatedField ctx docs ident number form)
      (.repeated form) := by
  have hloop : callsOf (repeatedField ctx docs ident number form).encode =
      callsOf (form.encode ctx.runtime (.var "buf") (tag number form.wireType)
        (.deref (.var "value"))) := by
    simp [repeatedField, callsOf, Stmt.calls, Expr.calls, memberOf]
  have hread := calleesOf_read form ctx.runtime "data" "pos" "end" "pos" "end"
    (calls_push ident "decoded")
  refine ⟨_, valueAgrees hnumber _ rfl hloop (hread.trans (List.append_nil _).symm), ?_⟩
  split
  next hw => simp [repeatedField, hw, WireType.packable]
  next hw =>
    refine ⟨_, ?_, packedArm_reads hnumber ctx ident form⟩
    simp [repeatedField, hw, WireType.packable]

/-- The code of a map agrees: entries are written with the two tags that are looked for in them. -/
theorem mapField_agrees (values : Ident) (key value : ValueForm) :
    CodeAgrees ctx.runtime number.toNat (mapField ctx docs ident values number key value)
      (.map key value) := by
  have hkeyArm := entryArm_agrees ctx mapKeyNumber (by decide) key "entry_key"
  have hvalueArm := entryArm_agrees ctx mapValueNumber (by decide) value "entry_value"
  refine ⟨_, entryArm ctx mapKeyNumber key "entry_key",
    entryArm ctx mapValueNumber value "entry_value", rfl, ?_⟩
  exact {
    standsFor := standsFor_tag hnumber _ _
    key_standsFor := hkeyArm.1
    value_standsFor := hvalueArm.1
    keysWritten_eq := by
      have hkey := key.keysWritten_encode ctx.runtime (rfl : entryBuffer.calls = [])
        (rfl : (Expr.deref (.var "key")).calls = []) (tag mapKeyNumber key.wireType)
      have hvalue := value.keysWritten_encode ctx.runtime (rfl : entryBuffer.calls = [])
        (rfl : (Expr.deref (.var "value")).calls = []) (tag mapValueNumber value.wireType)
      rw [keysWritten] at hkey hvalue
      rw [keysWritten, callsOf_mapField, List.filterMap_cons, List.filterMap_append,
        List.filterMap_append, hkey, hvalue]
      simp [entryArm, Arm.key]
    writers_eq := by
      have hkey := key.calleesOf_encode ctx.runtime (rfl : entryBuffer.calls = [])
        (rfl : (Expr.deref (.var "key")).calls = []) (tag mapKeyNumber key.wireType)
      have hvalue := value.calleesOf_encode ctx.runtime (rfl : entryBuffer.calls = [])
        (rfl : (Expr.deref (.var "value")).calls = []) (tag mapValueNumber value.wireType)
      rw [calleesOf] at hkey hvalue
      rw [calleesOf, callsOf_mapField, List.map_cons, List.map_append, List.map_append, hkey,
        hvalue]
      simp
    arms_eq := rfl
    key_readers_eq := hkeyArm.2
    value_readers_eq := hvalueArm.2
    refused := by
      simp [Arm.body, callsOf, Stmt.calls, Expr.calls, Target.callsIn] }

end

/-- The code of a field agrees, whatever its shape. -/
theorem codeOf_agrees {ctx : Context} {field : Schema.Field} {shape : Shape ValueForm}
    {code : FieldCode} (hrange : field.InRange) (h : codeOf ctx field shape = .ok code) :
    CodeAgrees ctx.runtime field.number.toInt.toNat code shape := by
  rw [← hrange.toNat_toUInt32]
  cases codeOf_isCodeBy h with
  | scalar => exact scalarField_agrees hrange.toNat_lt ctx _ _ _
  | message => exact messageField_agrees hrange.toNat_lt ctx _ _ _ _
  | repeated => exact repeatedField_agrees hrange.toNat_lt ctx _ _ _
  | map => exact mapField_agrees hrange.toNat_lt ctx _ _ _ _ _

/-- The code of a field with a number that fields may have agrees, unless the field is left out:
what writes the field and what reads it use the same keys, and functions of the same values. -/
theorem fieldCode_agrees (ctx : Context) (owner : String) (field : Schema.Field)
    (hrange : field.InRange) {code : FieldCode}
    (hcode : (fieldCode ctx owner field).outcome = .ok code) (hmarker : code.marker = none) :
    ∃ shape, shapeOf field = .ok shape ∧
      CodeAgrees ctx.runtime field.number.toInt.toNat code shape := by
  unfold fieldCode at hcode
  split at hcode
  next shape hshape => exact ⟨shape, hshape, codeOf_agrees hrange hcode⟩
  next =>
    obtain ⟨-, -, h⟩ := Reported.bind_eq_ok.mp hcode
    cases h
    cases hmarker
  next => cases hcode

/-- A map field from texts to messages. -/
def lookupField : Schema.Field :=
  { name := "lookup"
    number := 536870911
    typeCode := 11
    typeName := some ".p.LookupEntry"
    label := .repeated
    oneofIndex := none
    mapEntry := some ⟨9, 11, some ".p.Inner"⟩
    doc := none }

/-- The map has the largest number that a field may have. -/
theorem fieldCode_agrees_lookupField : ∃ code, lookupField.InRange ∧
    (fieldCode plainContext "p.Outer" lookupField).outcome = .ok code ∧ code.marker = none ∧
      ∃ shape, shapeOf lookupField = .ok shape ∧
        CodeAgrees plainContext.runtime lookupField.number.toInt.toNat code shape := by
  have hrange : lookupField.InRange := by decide
  have hsome : (((fieldCode plainContext "p.Outer" lookupField).outcome.toOption).any
      fun code => code.marker.isNone) = true := by
    decide +kernel
  obtain ⟨code, hcode, hnone⟩ := (Option.any_eq_true _ _).mp hsome
  have houtcome := toOption_eq_some.mp hcode
  have hmarker : code.marker = none := Option.isNone_iff_eq_none.mp hnone
  exact ⟨code, hrange, houtcome, hmarker, fieldCode_agrees _ _ _ hrange houtcome hmarker⟩

end Wiregen.Emit
