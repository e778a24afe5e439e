import Wiregen.Failure

/-!
# Work that reports on the way

A computation that may end early and that reports the fields it leaves out. What was reported before
an early end stays reported.
-/

namespace Wiregen.Emit

/-- An outcome with the diagnostics reported before it, in order. -/
structure Reported (α : Type) where
  diagnostics : List Diagnostic
  outcome : Except Halt α

namespace Reported

variable {α β : Type}

/-- Work without a report. -/
def ofExcept (outcome : Except Halt α) : Reported α := ⟨[], outcome⟩

/-- The next work, where the first has not ended early. -/
def andThen (first : Reported α) (next : α → Reported β) : Reported β :=
  match first.outcome with
  | .ok a => ⟨first.diagnostics ++ (next a).diagnostics, (next a).outcome⟩
  | .error halt => ⟨first.diagnostics, .error halt⟩

instance : Monad Reported where
  pure a := ⟨[], .ok a⟩
  bind := andThen

instance : LawfulMonad Reported := LawfulMonad.mk' Reported
  (by intro α ⟨d, o⟩; cases o <;> simp [Functor.map, andThen])
  (by intro α β a f; simp [bind, andThen, pure])
  (by
    intro α β γ ⟨d, o⟩ f g
    cases o with
    | error halt => simp [bind, andThen]
    | ok a =>
      simp only [bind, andThen]
      cases (f a).outcome <;> simp [List.append_assoc])

/-- A report. -/
def report (d : Diagnostic) : Reported Unit := ⟨[d], .ok ()⟩

/-- The end with a failure. -/
def fail (failure : Failure) : Reported α := ⟨[], .error (.failed failure)⟩

/-- The work on each element of a list, in order. -/
def each (f : α → Reported β) : List α → Reported (List β)
  | [] => pure []
  | a :: others => do
    let b ← f a
    return b :: (← each f others)

end Reported

/-- The identifier of a name, or the end where it has none. -/
def identifier {α : Type} (name : String) : Option α → Except Halt α
  | some ident => .ok ident
  | none => .error (.notAnIdentifier name)

end Wiregen.Emit
