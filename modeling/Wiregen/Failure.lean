import Wiregen.Text.Quoted

/-!
# Failures and diagnostics

What makes the generation of a unit fail, and what is only reported because the field in question is
left out. Where a parser refuses its input the failure says so without the parser's own words.
-/

namespace Wiregen

/-- Why no code is generated. -/
inductive Failure where
  /-- No field type has this number. -/
  | unsupportedFieldType (code : Int32)
  /-- A field of message type names no type. -/
  | unresolvedType (field typeName : String)
  /-- The schema breaks a rule of descriptors. -/
  | malformedSchema (message reason : String)
  /-- The generator was given a parameter it does not know. -/
  | invalidParameter (parameter : String)
  /-- The emitted code is not code: the path to the runtime cannot be used in it. The words of the
  parser that refuses the code, which would stand behind the headline, are left out. -/
  | unparsable
  /-- A descriptor set cannot be read. The words of the parser that refuses the set, which would be
  the cause of this failure, are left out. -/
  | unreadableSet
  /-- What made the unit of a file fail. -/
  | inFile (file : String) (cause : Failure)
  deriving DecidableEq, Repr

/-- What failed, without what made it fail. -/
def Failure.headline : Failure → String
  | .unsupportedFieldType code => "unsupported field type code " ++ toString code.toInt
  | .unresolvedType field typeName =>
    "cannot resolve type " ++ Text.quoted typeName ++ " of field " ++ field
  | .malformedSchema message reason => "malformed schema in " ++ message ++ ": " ++ reason
  | .invalidParameter parameter => "invalid plugin parameter " ++ Text.quoted parameter
  | .unparsable => "generated code does not parse"
  | .unreadableSet => "failed to decode file descriptor set"
  | .inFile file _ => "failed to generate " ++ file

/-- What made the failure, if that is one of its own. -/
def Failure.cause? : Failure → Option Failure
  | .inFile _ cause => some cause
  | _ => none

/-- The text of a failure, with what made it after a colon. -/
def Failure.message : Failure → String
  | .inFile file cause => (Failure.inFile file cause).headline ++ ": " ++ cause.message
  | failure => failure.headline

/-- Why a run ends early: with a failure, or at a name that no identifier can be made of, which
nothing after it can answer for. -/
inductive Halt where
  | failed (failure : Failure)
  | notAnIdentifier (name : String)
  deriving DecidableEq, Repr

/-- A field that was left out. -/
structure Diagnostic where
  /-- The full name of the message that owns the field. -/
  message : String
  field : String
  reason : String
  deriving DecidableEq, Repr

/-- The text of a diagnostic. -/
def Diagnostic.text (d : Diagnostic) : String := d.message ++ "." ++ d.field ++ ": " ++ d.reason

/-! ## Work that succeeds

Work that is done in steps succeeds exactly if each of its steps does.
-/

section
variable {ε α β : Type}

/-- Two steps succeed if the first does, and the second does on what the first gives. -/
theorem bind_eq_ok {x : Except ε α} {f : α → Except ε β} {b : β} :
    x >>= f = .ok b ↔ ∃ a, x = .ok a ∧ f a = .ok b := by
  cases x <;> simp [bind, Except.bind]

/-- Two steps fail as the first does, or else as the second does on what the first gives. -/
theorem bind_eq_error {x : Except ε α} {f : α → Except ε β} {e : ε} :
    x >>= f = .error e ↔ x = .error e ∨ ∃ a, x = .ok a ∧ f a = .error e := by
  cases x <;> simp [bind, Except.bind]

/-- A change of the result succeeds exactly where the work does. -/
theorem map_eq_ok {x : Except ε α} {f : α → β} {b : β} :
    x.map f = .ok b ↔ ∃ a, x = .ok a ∧ f a = b := by
  cases x <;> simp [Except.map]

/-- A change of the result leaves a failure as it is. -/
theorem map_eq_error {x : Except ε α} {f : α → β} {e : ε} :
    x.map f = .error e ↔ x = .error e := by
  cases x <;> simp [Except.map]

/-- There is a result exactly where the work succeeds. -/
theorem toOption_eq_some {x : Except ε α} {a : α} : x.toOption = some a ↔ x = .ok a := by
  cases x <;> simp [Except.toOption]

/-- Work succeeds exactly if it has a result. -/
theorem toOption_isSome {x : Except ε α} : x.toOption.isSome ↔ ∃ a, x = .ok a := by
  simp only [Option.isSome_iff_exists, toOption_eq_some]

end

end Wiregen
