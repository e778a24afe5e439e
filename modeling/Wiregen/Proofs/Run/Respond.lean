import Wiregen.Proofs.Emit.Names
import Wiregen.Run.Plugin

/-!
# Requests that are answered

A request is answered, with units or with a failure, if the names in the requested files will do;
and where it is answered with units, they do (`respond_hinges`). Names that will not do are nowhere
refused. A message may even have a type but no codec: what is put in front of a digit for the one is
missing in the other.
-/

namespace Wiregen.Run

open Emit (FileNameable HingesOn Reported SourceUnit)

/-- The unit of a file hinges on the names in it, whatever its failures are named after. -/
theorem namedUnit_hingesOn (options : Options) (file : Descriptor.File) :
    HingesOn (FileNameable file) (namedUnit options file).outcome := by
  have hunit := Emit.fileUnit_hingesOn file options
  unfold namedUnit
  dsimp only
  cases h : (Emit.fileUnit file options).outcome with
  | ok unit => exact (HingesOn.ok unit).congr (iff_of_true trivial (hunit.of_ok unit h))
  | error halt =>
    cases halt with
    | failed failure => exact .failed _
    | notAnIdentifier name =>
      refine ⟨fun hfile => absurd ⟨name, h⟩ (hunit.not_endsAtName hfile), fun unit hunit => ?_⟩
      cases hunit

/-- The units of a run hinge on the names in the files they are made of. -/
theorem units_hingesOn (files : List Descriptor.File) (names : List String) (options : Options) :
    HingesOn (∀ file ∈ files.filter fun file => names.contains file.nameText, FileNameable file)
      (units files names options).outcome := by
  rw [units, Reported.bind_outcome]
  refine HingesOn.andThen ?_ fun units _ => .ok _
  exact .each fun file _ => namedUnit_hingesOn options file

/-- A request whose requested files have only names that will do. -/
def Request.Nameable (request : Request) : Prop :=
  ∀ file ∈ request.files.filter fun file => request.generate.contains file.nameText,
    FileNameable file

instance (request : Request) : Decidable request.Nameable := List.decidableBAll _ _

/-- A request whose names will do is answered, and a request that is answered without a failure has
only such names. -/
theorem respond_hinges (request : Request) :
    (request.Nameable → ∃ response, respond request = .ok response) ∧
      ∀ response, respond request = .ok response → response.error = none → request.Nameable := by
  have hwork : HingesOn request.Nameable
      (do
        let options ← Emit.halting (Options.parse (request.parameter.getD ""))
        units request.files request.generate options : Reported (List SourceUnit)).outcome := by
    rw [Reported.bind_outcome]
    exact (Emit.halting_hingesOn _).after fun options _ => units_hingesOn _ _ options
  unfold respond
  dsimp only
  split
  next files hfiles => exact ⟨fun _ => ⟨_, rfl⟩, fun _ _ _ => hwork.of_ok files hfiles⟩
  next failure _ =>
    refine ⟨fun _ => ⟨_, rfl⟩, fun response h hnone => ?_⟩
    cases h
    cases hnone
  next name hname =>
    refine ⟨fun h => absurd ⟨name, hname⟩ (hwork.not_endsAtName h), fun response h => ?_⟩
    cases h

/-- A request for a file with one message of the given name, which has one field. -/
def messageRequest (message field : String) : Request :=
  { generate := ["shop.proto"]
    files := [{
      name := some "shop.proto"
      messages := [{
        name := some message
        fields := [{ name := some field, number := some 1, type := some 9 }] }] }] }

/-- A field name that starts with a digit can do with an underscore in front, and the request is
answered. -/
theorem respond_item :
    ∃ response, respond (messageRequest "Item" "1st_name") = .ok response :=
  (respond_hinges _).1 (by decide +kernel)

/-- A message whose name starts with a digit could have a type, but it has no codec, and the request
no answer. -/
theorem respond_digit : (Naming.messageIdent? "1st").isSome ∧
    ¬ ∃ response, respond (messageRequest "1st" "name") = .ok response := by
  refine ⟨by decide +kernel, ?_⟩
  rintro ⟨response, h⟩
  have hstuck : (respond (messageRequest "1st" "name")).isOk = false := by decide +kernel
  rw [h] at hstuck
  cases hstuck

end Wiregen.Run
