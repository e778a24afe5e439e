import Wiregen.Proofs.Run.Outcome

/-!
# Sets and requests

A descriptor set is worked on like a request for all of its files (`setUnits_eq_work`), whether or
not they have names and the names differ: a file is requested by the very name that it has. So both
come to the same units, or fail for the same reason. The one gives it as a failure and what made it,
the other as the text of these in a row (`set_and_request_agree`).
-/

namespace Wiregen

/-! ## Chains of failures -/

/-- What failed and what made it fail, each without what made that. -/
def Failure.chain : Failure → List String
  | .inFile file cause => (Failure.inFile file cause).headline :: cause.chain
  | failure => [failure.headline]

/-- A chain goes on with that of what made the failure. -/
theorem Failure.chain_eq (failure : Failure) :
    failure.chain = failure.headline :: (failure.cause?.map Failure.chain).getD [] := by
  cases failure with
  | inFile file cause => rfl
  | _ => rfl

/-- The text of a failure is its chain with colons between. -/
theorem Failure.message_eq (failure : Failure) :
    failure.message = ": ".intercalate failure.chain := by
  induction failure with
  | inFile file cause ih =>
    have hne : cause.chain ≠ [] := by
      rw [Failure.chain_eq]
      exact List.cons_ne_nil _ _
    rw [message, ih, chain, String.intercalate_cons_of_ne_nil hne]
  | _ => exact String.intercalate_singleton.symm

end Wiregen

namespace Wiregen.Run

open Emit (Reported SourceUnit)
open Wire (Bytes)

/-! ## Requests for all files -/

/-- The request for the units of all files. -/
def Request.forAll (files : List Descriptor.File) (parameter : String) : Request where
  generate := files.map (·.nameText)
  parameter := some parameter
  files := files

/-- The units of a descriptor set are those of a request for all files that it holds. -/
theorem setUnits_eq_work {set : Bytes} {files : List Descriptor.File}
    (hset : Descriptor.readSet set = .ok files) (parameter : String) :
    setUnits set parameter = (Request.forAll files parameter).work := by
  rw [setUnits, hset]
  rfl

/-- A request is answered with what its work comes to. -/
theorem respond_eq (request : Request) : respond request =
    match request.work.outcome with
    | .ok all => .ok { error := none, files := all }
    | .error (.failed failure) => .ok { error := some failure.message, files := [] }
    | .error (.notAnIdentifier name) => .error name := rfl

/-- A descriptor set has units exactly if the request for all its files is answered with them. It
fails exactly if the request is answered with an error, and that is the chain of the failure with
colons between. And it ends at a name that is no identifier exactly if the request has no answer for
that name. -/
theorem set_and_request_agree {set : Bytes} {files : List Descriptor.File} (parameter : String)
    (hset : Descriptor.readSet set = .ok files) :
    (∀ all, (setUnits set parameter).outcome = .ok all ↔
      respond (.forAll files parameter) = .ok { error := none, files := all }) ∧
    (∀ failure, (setUnits set parameter).outcome = .error (.failed failure) →
      respond (.forAll files parameter) =
        .ok { error := some (": ".intercalate failure.chain), files := [] }) ∧
    (∀ response text, respond (.forAll files parameter) = .ok response →
      response.error = some text → response.files = [] ∧
        ∃ failure, (setUnits set parameter).outcome = .error (.failed failure) ∧
          text = ": ".intercalate failure.chain) ∧
    ∀ name, (setUnits set parameter).outcome = .error (.notAnIdentifier name) ↔
      respond (.forAll files parameter) = .error name := by
  rw [setUnits_eq_work hset]
  generalize Request.forAll files parameter = request
  have hrespond := respond_eq request
  refine ⟨fun all => ⟨fun h => ?_, fun h => ?_⟩, fun failure h => ?_,
    fun response text h htext => ?_, fun name => ⟨fun h => ?_, fun h => ?_⟩⟩
  · rw [hrespond, h]
  · obtain ⟨all', hall, heq⟩ | ⟨failure, -, heq⟩ := respond_eq_ok.mp h
    · obtain rfl : all' = all := congrArg Response.files heq
      exact hall
    · exact nomatch congrArg Response.error heq
  · rw [← Failure.message_eq, hrespond, h]
  · obtain ⟨all, -, rfl⟩ | ⟨failure, hfailure, rfl⟩ := respond_eq_ok.mp h
    · cases htext
    · cases htext
      exact ⟨rfl, failure, hfailure, failure.message_eq⟩
  · rw [hrespond, h]
  · rw [hrespond] at h
    split at h
    next => cases h
    next => cases h
    next name' hname =>
      cases h
      exact hname

/-- A set of two files, neither of which has a name. -/
def namelessSet : Bytes :=
  [0x0A, 0x05, 0x22, 0x03, 0x0A, 0x01, 0x4D, 0x0A, 0x05, 0x22, 0x03, 0x0A, 0x01, 0x4E]

/-- Files without names are worked on by either way, and a file that fails by the one way does so by
the other. -/
theorem set_and_request_agree_nameless :
    (∃ files all, Descriptor.readSet namelessSet = .ok files ∧
      files.map (·.name) = [none, none] ∧ (setUnits namelessSet "").outcome = .ok all ∧
      respond (.forAll files "") = .ok { error := none, files := all }) ∧
    ∃ files, Descriptor.readSet orphanSet = .ok files ∧
      respond (.forAll files "") = .ok
        { error := some "failed to generate b.proto: cannot resolve type \"\" of field x"
          files := [] } := by
  constructor
  · have hread : ((Descriptor.readSet namelessSet).toOption.any fun files =>
        files.map (·.name) = [none, none]) = true := by
      decide +kernel
    have hunits : (setUnits namelessSet "").outcome.toOption.isSome := by decide +kernel
    obtain ⟨files, hfiles, hnames⟩ := (Option.any_eq_true _ _).mp hread
    obtain ⟨all, hall⟩ := toOption_isSome.mp hunits
    have hset := toOption_eq_some.mp hfiles
    exact ⟨files, all, hset, of_decide_eq_true hnames, hall,
      ((set_and_request_agree "" hset).1 all).mp hall⟩
  · have hread : (Descriptor.readSet orphanSet).toOption.isSome := by decide +kernel
    have hfails : (setUnits orphanSet "").outcome =
        .error (.failed (.inFile "b.proto" (.unresolvedType "x" ""))) := by
      decide +kernel
    obtain ⟨files, hset⟩ := toOption_isSome.mp hread
    refine ⟨files, hset, ?_⟩
    rw [(set_and_request_agree "" hset).2.1 _ hfails]
    decide +kernel

end Wiregen.Run
