import Wiregen.Proofs.Run.Generate
import Wiregen.Run.CommandLine

/-!
# All units or none

A run gives every unit it is asked for or none. The response to a request holds the units of all
wanted files and the runtime unit, or an error and nothing else, and the error names the first file
that fails (`respond_eq_ok`). An invocation over a descriptor set writes nothing unless there is a
unit for every file (`runSet_eq_ok`). Both are put together in `all_units_or_none`.
-/

namespace Wiregen.Run

open Emit (Reported SourceUnit)
open Wire (Bytes)

/-! ## Responses -/

/-- The parameter of a request, which may be missing. -/
def Request.parameterText (request : Request) : String := request.parameter.getD ""

/-- The files that a request wants units of. -/
def Request.wanted (request : Request) : List Descriptor.File :=
  requested request.files request.generate

/-- What a request comes to before it is put in a response. -/
def Request.work (request : Request) : Reported (List SourceUnit) := do
  let options ← Emit.halting (Options.parse request.parameterText)
  units request.files request.generate options

/-- A request succeeds with the units of the wanted files and the runtime unit behind them. -/
theorem Request.work_eq_ok {request : Request} {all : List SourceUnit} :
    request.work.outcome = .ok all ↔
      ∃ options made, Options.parse request.parameterText = .ok options ∧
        List.Forall₂ (HasUnit options) request.wanted made ∧
        made ++ [runtimeUnit options] = all := by
  simp only [work, Reported.bind_eq_ok, Emit.halting_eq_ok, units_eq_ok, wanted, exists_and_left]

/-- A request fails for its parameter, or else for the first wanted file that has no unit. -/
theorem Request.work_eq_failed {request : Request} {failure : Failure} :
    request.work.outcome = .error (.failed failure) ↔
      Options.parse request.parameterText = .error failure ∨
      ∃ options file cause, Options.parse request.parameterText = .ok options ∧
        FailsFirst options request.wanted file cause ∧ failure = .inFile file.nameText cause := by
  simp only [work, Reported.bind_eq_error, Emit.halting_eq_error, Emit.halting_eq_ok,
    units_eq_failed, wanted, Halt.failed.injEq, exists_eq_right', exists_and_left]

/-- A request that is answered has all units in the response, or the text of a failure. -/
theorem respond_eq_ok {request : Request} {response : Response} :
    respond request = .ok response ↔
      (∃ all, request.work.outcome = .ok all ∧ { error := none, files := all } = response) ∨
        ∃ failure, request.work.outcome = .error (.failed failure) ∧
          { error := some failure.message, files := [] } = response := by
  unfold respond Request.work Request.parameterText
  dsimp only
  split
  next all hall => simp [hall]
  next failure hfailure => simp [hfailure]
  next name hname => simp [hname]

/-! ## Invocations over a descriptor set -/

/-- The bytes of the descriptor set that an invocation is given. -/
def givenSet (disk : Disk) (stdin : Bytes) (set : String) : Except DiskError Bytes :=
  if set = "-" then .ok stdin else disk.read stdin set

/-- A descriptor set cannot be decoded, or the parameter not be parsed, or the unit of a file not be
generated. -/
inductive SetFails (set : Bytes) (parameter : String) : Prop where
  | unreadable {e : Descriptor.Unreadable} (h : Descriptor.readSet set = .error e)
  | parameter {failure : Failure} (h : Options.parse parameter = .error failure)
  | file {files : List Descriptor.File} {options : Options} {file : Descriptor.File}
      {cause : Failure} (hfiles : Descriptor.readSet set = .ok files)
      (hoptions : Options.parse parameter = .ok options) (hfile : file ∈ files)
      (hcause : FailsWith options file cause)

/-- Every file of a set is requested. -/
theorem requested_all (files : List Descriptor.File) :
    requested files (files.map (·.nameText)) = files :=
  List.filter_eq_self.mpr fun file hfile => by simpa using ⟨file, hfile, rfl⟩

/-- A descriptor set has units if it can be decoded, the parameter be parsed and each of its files
has one. -/
theorem setUnits_eq_ok {set : Bytes} {parameter : String} {all : List SourceUnit} :
    (setUnits set parameter).outcome = .ok all ↔
      ∃ files options, Descriptor.readSet set = .ok files ∧
        Options.parse parameter = .ok options ∧
        (units files (files.map (·.nameText)) options).outcome = .ok all := by
  have hset : ∀ files : List Descriptor.File,
      ((Descriptor.readSet set).mapError fun _ => Halt.failed .unreadableSet) = .ok files ↔
        Descriptor.readSet set = .ok files := by
    intro files
    cases Descriptor.readSet set <;> simp [Except.mapError]
  simp only [setUnits, Reported.bind_eq_ok, Reported.ofExcept_outcome, hset, Emit.halting_eq_ok,
    exists_and_left]

/-- A set that fails has no units. -/
theorem SetFails.setUnits_ne_ok {set : Bytes} {parameter : String} (h : SetFails set parameter)
    (all : List SourceUnit) : (setUnits set parameter).outcome ≠ .ok all := by
  intro hall
  obtain ⟨files, options, hfiles, hoptions, hunits⟩ := setUnits_eq_ok.mp hall
  cases h with
  | unreadable h => rw [h] at hfiles; cases hfiles
  | parameter h => rw [h] at hoptions; cases hoptions
  | @file files' options' file cause hfiles' hoptions' hfile hcause =>
    rw [hfiles] at hfiles'
    rw [hoptions] at hoptions'
    cases hfiles'
    cases hoptions'
    rw [← requested_all files] at hfile
    obtain ⟨unit, hunit⟩ := (units_eq_ok_iff_forall.mp hunits).1 file hfile
    exact hcause.not_hasUnit hunit

/-- What an invocation over a descriptor set leaves behind: nothing but a complaint, or the units
that could be written. -/
theorem runSet_eq_ok {disk : Disk} {set : Bytes} {directory parameter : String}
    {outcome : Outcome} (h : runSet disk set directory parameter = .ok outcome) :
    (∃ failure, (setUnits set parameter).outcome = .error (.failed failure) ∧
      outcome = refuse disk (.ofFailure failure)) ∨
    ∃ all, (setUnits set parameter).outcome = .ok all ∧
      outcome.disk = (writeUnits disk directory all).disk ∧
      (outcome.exitCode = 0 ↔ (writeUnits disk directory all).complaint = none) := by
  unfold runSet at h
  split at h
  next => cases h
  next failure hfailure =>
    cases h
    exact .inl ⟨failure, hfailure, rfl⟩
  next all hall =>
    cases h
    refine .inr ⟨all, hall, rfl, ?_⟩
    cases (writeUnits disk directory all).complaint <;> simp

/-- A call with a set and a directory runs on the content of the set. -/
theorem invoke_writeUnits {program : String} {arguments : List String} {disk : Disk} {stdin : Bytes}
    {set directory parameter : String} {content : Bytes}
    (harguments : Task.ofArguments arguments = .writeUnits set directory parameter)
    (hcontent : givenSet disk stdin set = .ok content) :
    invoke program arguments disk stdin = runSet disk content directory parameter := by
  unfold givenSet at hcontent
  simp only [invoke, harguments]
  split at hcontent
  next hdash =>
    cases hcontent
    rw [if_pos hdash]
  next hdash => rw [if_neg hdash, hcontent]

/-! ## Both -/

/-- Whatever is asked for, all units are given or none. A request that is answered without an error
gets the units of all wanted files, in their order, and the runtime unit. One that is answered with
an error gets nothing else, and the error is about its parameter or names the first file that has no
unit; that is so exactly if the parameter or a wanted file fails. An invocation over a descriptor
set in which anything of this fails has another exit code than zero and leaves the disk as it was.
-/
theorem all_units_or_none :
    (∀ request response, respond request = .ok response →
      (response.error = none →
        ∃ options made, Options.parse request.parameterText = .ok options ∧
          List.Forall₂ (HasUnit options) request.wanted made ∧
          response.files = made ++ [runtimeUnit options]) ∧
      (∀ text, response.error = some text → response.files = [] ∧
        ((∃ failure, Options.parse request.parameterText = .error failure ∧
            text = failure.message) ∨
          ∃ options file cause, Options.parse request.parameterText = .ok options ∧
            FailsFirst options request.wanted file cause ∧
            text = "failed to generate " ++ file.nameText ++ ": " ++ cause.message)) ∧
      (response.error.isSome ↔
        (∃ failure, Options.parse request.parameterText = .error failure) ∨
          ∃ options, Options.parse request.parameterText = .ok options ∧
            ∃ file ∈ request.wanted, ∃ cause, FailsWith options file cause)) ∧
    ∀ program arguments disk stdin set directory parameter content outcome,
      Task.ofArguments arguments = .writeUnits set directory parameter →
      givenSet disk stdin set = .ok content →
      invoke program arguments disk stdin = .ok outcome →
      SetFails content parameter → outcome.exitCode ≠ 0 ∧ outcome.disk = disk := by
  refine ⟨fun request response h => ?_, ?_⟩
  · obtain ⟨all, hall, rfl⟩ | ⟨failure, hfailure, rfl⟩ := respond_eq_ok.mp h
    · obtain ⟨options, made, hoptions, hmade, rfl⟩ := Request.work_eq_ok.mp hall
      refine ⟨fun _ => ⟨options, made, hoptions, hmade, rfl⟩, fun text htext => (nomatch htext),
        iff_of_false Bool.false_ne_true ?_⟩
      rintro (⟨failure, hparse⟩ | ⟨options', hoptions', file, hfile, cause, hcause⟩)
      · rw [hoptions] at hparse
        cases hparse
      · obtain rfl : options = options' := Except.ok.inj (hoptions.symm.trans hoptions')
        obtain ⟨unit, hunit⟩ := (forall₂_hasUnit_iff.mp hmade).1 file hfile
        exact hcause.not_hasUnit hunit
    · refine ⟨fun hnone => (nomatch hnone), fun text htext => ⟨rfl, ?_⟩, iff_of_true rfl ?_⟩
      · obtain rfl : failure.message = text := Option.some.inj htext
        rcases Request.work_eq_failed.mp hfailure with hparse | ⟨options, file, cause, h⟩
        · exact .inl ⟨failure, hparse, rfl⟩
        · obtain ⟨hoptions, hfirst, rfl⟩ := h
          exact .inr ⟨options, file, cause, hoptions, hfirst, rfl⟩
      · rcases Request.work_eq_failed.mp hfailure with hparse | ⟨options, file, cause, h⟩
        · exact .inl ⟨failure, hparse⟩
        · obtain ⟨hoptions, hfirst, -⟩ := h
          exact .inr ⟨options, hoptions, file, hfirst.exists_mem.1, cause, hfirst.exists_mem.2⟩
  · intro program arguments disk stdin set directory parameter content outcome harguments hcontent
      houtcome hfails
    rw [invoke_writeUnits harguments hcontent] at houtcome
    obtain ⟨failure, -, rfl⟩ | ⟨all, hall, -⟩ := runSet_eq_ok houtcome
    · have hcode : (1 : UInt32) ≠ 0 := by decide
      exact ⟨hcode, rfl⟩
    · exact absurd hall (hfails.setUnits_ne_ok all)

/-- A request for two files, of which the second has no unit. -/
def orphanRequest : Request where
  generate := ["orphan.proto", "ping.proto"]
  files := [ping, orphan]

/-- A set of two files, of which the second has no unit: a message with a field of message type that
names no type. -/
def orphanSet : Bytes :=
  [0x0A, 0x0E, 0x0A, 0x07, 0x61, 0x2E, 0x70, 0x72, 0x6F, 0x74, 0x6F, 0x22, 0x03, 0x0A, 0x01, 0x4D,
    0x0A, 0x17, 0x0A, 0x07, 0x62, 0x2E, 0x70, 0x72, 0x6F, 0x74, 0x6F, 0x22, 0x0C, 0x0A, 0x01, 0x4D,
    0x12, 0x07, 0x0A, 0x01, 0x78, 0x18, 0x01, 0x28, 0x0B]

/-- What is wrong with the second file. -/
def orphanError : String :=
  "failed to generate orphan.proto: cannot resolve type \"\" of field parent"

/-- A file that fails, as a request with an error in its response and as a set with nothing on the
disk. -/
theorem all_units_or_none_orphan :
    (∃ response, respond orphanRequest = .ok response ∧ response.files = [] ∧
      response.error = some orphanError) ∧
    ∃ outcome, invoke "wiregen" ["-", "out"] (.holding []) orphanSet = .ok outcome ∧
      SetFails orphanSet "" ∧ outcome.exitCode ≠ 0 ∧ outcome.disk = .holding [] := by
  constructor
  · have hrespond : respond orphanRequest = .ok { error := some orphanError, files := [] } := by
      decide +kernel
    have hall := all_units_or_none.1 orphanRequest _ hrespond
    exact ⟨_, hrespond, (hall.2.1 _ rfl).1, rfl⟩
  · have hread : (Descriptor.readSet orphanSet).toOption.isSome = true := by
      decide +kernel
    have hfail : ((Descriptor.readSet orphanSet).toOption.any fun files => files.any fun file =>
        (Emit.fileUnit file {}).outcome = .error (.failed (.unresolvedType "x" ""))) = true := by
      decide +kernel
    have hinvoke : (invoke "wiregen" ["-", "out"] (.holding []) orphanSet).toOption.isSome := by
      decide +kernel
    obtain ⟨files, hfiles⟩ := toOption_isSome.mp hread
    obtain ⟨outcome, houtcome⟩ := toOption_isSome.mp hinvoke
    rw [hfiles] at hfail
    obtain ⟨file, hfile, hfileFails⟩ := List.any_eq_true.mp hfail
    have hcause := of_decide_eq_true hfileFails
    have hset : SetFails orphanSet "" := .file hfiles rfl hfile hcause
    obtain ⟨hcode, hdisk⟩ := all_units_or_none.2 "wiregen" ["-", "out"] (.holding []) orphanSet
      "-" "out" "" orphanSet outcome rfl rfl houtcome hset
    exact ⟨outcome, houtcome, hset, hcode, hdisk⟩

end Wiregen.Run
