import Mathlib.Data.List.Perm.Basic
import Wiregen.Proofs.Emit.Names
import Wiregen.Run.Generate

/-!
# Runs, file by file

A run works on the requested files one after the other, and on each as if it were the only one. It
succeeds if it does on each of them (`units_eq_ok`), reports what it reports on each
(`units_diagnostics`), and fails at the first it fails on (`units_eq_failed`). So it is nothing to
the unit of a file which other files there are, in which order they come and how often they are
requested (`units_independent`).
-/

namespace Wiregen.Run

open Emit (EndsAtName Reported SourceUnit)

/-- The files with the given names, in their order. -/
def requested (files : List Descriptor.File) (names : List String) : List Descriptor.File :=
  files.filter fun file => file.nameText ∈ names

/-- The file has this unit when it is generated alone. -/
def HasUnit (options : Options) (file : Descriptor.File) (unit : SourceUnit) : Prop :=
  (Emit.fileUnit file options).outcome = .ok unit

/-- The file fails, for this reason, when it is generated alone. -/
def FailsWith (options : Options) (file : Descriptor.File) (cause : Failure) : Prop :=
  (Emit.fileUnit file options).outcome = .error (.failed cause)

/-- Of the files without a unit this one is the first, and it fails for this reason. -/
def FailsFirst (options : Options) (files : List Descriptor.File) (file : Descriptor.File)
    (cause : Failure) : Prop :=
  ∃ before after, files = before ++ file :: after ∧
    (∀ f ∈ before, ∃ unit, HasUnit options f unit) ∧ FailsWith options file cause

/-- The file has a name that no identifier can be made of, and its unit needs it. -/
def EndsOn (options : Options) (file : Descriptor.File) : Prop :=
  EndsAtName (Emit.fileUnit file options).outcome

variable {files files' : List Descriptor.File} {names names' : List String} {options : Options}
  {file : Descriptor.File}

/-- It does not matter in which order and how often files are requested. -/
theorem requested_congr (h : ∀ name, name ∈ names ↔ name ∈ names') (files : List Descriptor.File) :
    requested files names = requested files names' :=
  List.filter_congr fun file _ => decide_eq_decide.mpr (h file.nameText)

/-! ## One file -/

/-- The unit of a file in a run is the one that the file has alone. -/
theorem namedUnit_eq_ok {unit : SourceUnit} :
    (namedUnit options file).outcome = .ok unit ↔ HasUnit options file unit := by
  unfold namedUnit HasUnit
  dsimp only
  rcases (Emit.fileUnit file options).outcome with (_ | _) | _ <;> simp [Except.mapError]

/-- What fails on a file is named after it. -/
theorem namedUnit_eq_failed {failure : Failure} :
    (namedUnit options file).outcome = .error (.failed failure) ↔
      ∃ cause, FailsWith options file cause ∧ failure = .inFile file.nameText cause := by
  unfold namedUnit FailsWith
  dsimp only
  rcases (Emit.fileUnit file options).outcome with (_ | _) | _ <;> simp [Except.mapError, eq_comm]

/-- A run ends at a name in a file exactly if the file alone does. -/
theorem endsAtName_namedUnit :
    EndsAtName (namedUnit options file).outcome ↔ EndsOn options file := by
  unfold namedUnit EndsOn
  dsimp only
  rcases (Emit.fileUnit file options).outcome with (_ | _) | _ <;> simp [Except.mapError]

/-- A file that fails has no unit. -/
theorem FailsWith.not_hasUnit {cause : Failure} {unit : SourceUnit}
    (h : FailsWith options file cause) : ¬ HasUnit options file unit := by
  unfold HasUnit
  rw [h]
  simp

/-- The first file that fails is one of the files, and fails. -/
theorem FailsFirst.exists_mem {cause : Failure} (h : FailsFirst options files file cause) :
    file ∈ files ∧ FailsWith options file cause := by
  obtain ⟨before, after, rfl, -, hcause⟩ := h
  exact ⟨by simp, hcause⟩

/-! ## All files -/

/-- A run makes the units of the requested files, one after the other, and then the runtime unit. -/
theorem units_eq_bind : units files names options = (do
    let made ← Reported.each (namedUnit options) (requested files names)
    return made ++ [runtimeUnit options]) := by
  simp [units, requested]

/-- A run succeeds with the units of the requested files and the runtime unit behind them. -/
theorem units_eq_ok {all : List SourceUnit} :
    (units files names options).outcome = .ok all ↔
      ∃ made, List.Forall₂ (HasUnit options) (requested files names) made ∧
        made ++ [runtimeUnit options] = all := by
  simp only [units_eq_bind, Reported.bind_eq_ok, Reported.each_eq_ok_iff, namedUnit_eq_ok,
    pure, Except.ok.injEq]

/-- A run that succeeds reports what is reported on each of the requested files alone. -/
theorem units_diagnostics {all : List SourceUnit}
    (h : (units files names options).outcome = .ok all) :
    (units files names options).diagnostics =
      (requested files names).flatMap fun file => (Emit.fileUnit file options).diagnostics := by
  rw [units_eq_bind] at h ⊢
  obtain ⟨made, hmade, -⟩ := Reported.bind_eq_ok.mp h
  rw [Reported.bind_diagnostics hmade, Reported.each_diagnostics hmade]
  simp [pure, namedUnit]

/-- A run that ends early does so at the first requested file that has no unit. -/
theorem units_eq_error {halt : Halt} :
    (units files names options).outcome = .error halt ↔
      ∃ before file after, requested files names = before ++ file :: after ∧
        (∀ f ∈ before, ∃ unit, HasUnit options f unit) ∧
        (namedUnit options file).outcome = .error halt := by
  simp only [units_eq_bind, Reported.bind_eq_error, Reported.each_eq_error, namedUnit_eq_ok, pure,
    reduceCtorEq, and_false, exists_false, or_false]

/-- A run that fails does so at the first requested file that has no unit, and is named after it. -/
theorem units_eq_failed {failure : Failure} :
    (units files names options).outcome = .error (.failed failure) ↔
      ∃ file cause, FailsFirst options (requested files names) file cause ∧
        failure = .inFile file.nameText cause := by
  simp only [units_eq_error, namedUnit_eq_failed]
  constructor
  · rintro ⟨before, file, after, hsplit, hbefore, cause, hcause, hname⟩
    exact ⟨file, cause, ⟨before, after, hsplit, hbefore, hcause⟩, hname⟩
  · rintro ⟨file, cause, ⟨before, after, hsplit, hbefore, hcause⟩, hname⟩
    exact ⟨before, file, after, hsplit, hbefore, cause, hcause, hname⟩

/-! ## Runs beside each other -/

/-- The unit of a file that has one. -/
def unitOf (options : Options) (file : Descriptor.File) : SourceUnit :=
  (Emit.fileUnit file options).outcome.toOption.getD ⟨"", ""⟩

/-- The unit that a file has is the unit of the file. -/
theorem HasUnit.unitOf_eq {unit : SourceUnit} (h : HasUnit options file unit) :
    unitOf options file = unit := by
  rw [unitOf, toOption_eq_some.mpr h, Option.getD_some]

/-- Files have the units they have alone. -/
theorem forall₂_hasUnit_iff {made : List SourceUnit} :
    List.Forall₂ (HasUnit options) files made ↔
      (∀ file ∈ files, ∃ unit, HasUnit options file unit) ∧ files.map (unitOf options) = made := by
  induction files generalizing made with
  | nil => simp [eq_comm]
  | cons file files ih =>
    rw [List.forall_mem_cons, List.map_cons]
    constructor
    · rintro (_ | ⟨hunit, hothers⟩)
      obtain ⟨hall, rfl⟩ := ih.mp hothers
      exact ⟨⟨⟨_, hunit⟩, hall⟩, by rw [hunit.unitOf_eq]⟩
    · rintro ⟨⟨⟨unit, hunit⟩, hall⟩, rfl⟩
      rw [hunit.unitOf_eq]
      exact .cons hunit (ih.mpr ⟨hall, rfl⟩)

/-- A run succeeds if each of the requested files has a unit. -/
theorem units_eq_ok_iff_forall {all : List SourceUnit} :
    (units files names options).outcome = .ok all ↔
      (∀ file ∈ requested files names, ∃ unit, HasUnit options file unit) ∧
        (requested files names).map (unitOf options) ++ [runtimeUnit options] = all := by
  simp only [units_eq_ok, forall₂_hasUnit_iff]
  exact ⟨fun ⟨_, ⟨h, hmade⟩, hall⟩ => ⟨h, hmade ▸ hall⟩, fun ⟨h, hall⟩ => ⟨_, ⟨h, rfl⟩, hall⟩⟩

/-- Where no name is in the way, a run fails exactly if one of the requested files does. -/
theorem exists_units_failed_iff
    (h : ∀ file ∈ requested files names, ¬ EndsOn options file) :
    (∃ failure, (units files names options).outcome = .error (.failed failure)) ↔
      ∃ file ∈ requested files names, ∃ cause, FailsWith options file cause := by
  constructor
  · rintro ⟨failure, hfailure⟩
    obtain ⟨file, cause, hfirst, -⟩ := units_eq_failed.mp hfailure
    exact ⟨file, hfirst.exists_mem.1, cause, hfirst.exists_mem.2⟩
  · rintro ⟨file, hfile, cause, hcause⟩
    cases hunits : (units files names options).outcome with
    | ok all =>
      obtain ⟨unit, hunit⟩ := (units_eq_ok_iff_forall.mp hunits).1 file hfile
      exact absurd hunit hcause.not_hasUnit
    | error halt =>
      cases halt with
      | failed failure => exact ⟨failure, rfl⟩
      | notAnIdentifier name =>
        obtain ⟨before, first, after, hsplit, -, hfirst⟩ := units_eq_error.mp hunits
        have hends : EndsOn options first := endsAtName_namedUnit.mp ⟨name, hfirst⟩
        exact absurd hends (h first (by simp [hsplit]))

/-- The unit of a file is its own affair. A run makes the units that the requested files have alone
and the runtime unit behind them, and it reports what is reported on each alone. Files in another
order give the same units in that order, or fail as well. And files that are not requested do not
count, nor does it in which order or how often files are requested. -/
theorem units_independent (options : Options) :
    (∀ files names all, (units files names options).outcome = .ok all →
      (∃ made, List.Forall₂ (HasUnit options) (requested files names) made ∧
        made ++ [runtimeUnit options] = all) ∧
      (units files names options).diagnostics =
        (requested files names).flatMap fun file => (Emit.fileUnit file options).diagnostics) ∧
    (∀ files files' names, files.Perm files' →
      ((∃ all, (units files names options).outcome = .ok all) ↔
        ∃ all, (units files' names options).outcome = .ok all) ∧
      ((∀ file ∈ requested files names, ¬ EndsOn options file) →
        ((∃ failure, (units files names options).outcome = .error (.failed failure)) ↔
          ∃ failure, (units files' names options).outcome = .error (.failed failure))) ∧
      ∀ all all', (units files names options).outcome = .ok all →
        (units files' names options).outcome = .ok all' →
        ∃ unitOf : Descriptor.File → SourceUnit,
          (requested files names).map unitOf ++ [runtimeUnit options] = all ∧
          (requested files' names).map unitOf ++ [runtimeUnit options] = all') ∧
    ∀ files files' names names', (∀ name, name ∈ names ↔ name ∈ names') →
      requested files names = requested files' names →
      units files names options = units files' names' options := by
  refine ⟨fun files names all h => ⟨units_eq_ok.mp h, units_diagnostics h⟩,
    fun files files' names hperm => ?_, fun files files' names names' hnames hfiles => ?_⟩
  · have hrequested : (requested files names).Perm (requested files' names) := hperm.filter _
    refine ⟨?_, fun hends => ?_, fun all all' hall hall' => ?_⟩
    · simp only [units_eq_ok_iff_forall, hrequested.mem_iff, exists_and_left, exists_eq', and_true]
    · have hends' : ∀ file ∈ requested files' names, ¬ EndsOn options file :=
        fun file hfile => hends file (hrequested.mem_iff.mpr hfile)
      simp only [exists_units_failed_iff hends, exists_units_failed_iff hends', hrequested.mem_iff]
    · exact ⟨unitOf options, (units_eq_ok_iff_forall.mp hall).2,
        (units_eq_ok_iff_forall.mp hall').2⟩
  · rw [units_eq_bind, units_eq_bind, hfiles, requested_congr hnames]

/-- A file with one message, which has one field. -/
def oneFieldFile (file message field : String) (type : Int32) : Descriptor.File where
  name := some file
  messages := [{
    name := some message
    fields := [{ name := some field, number := some 1, type := some type }] }]

/-- A file with one message, which holds one number. -/
def ping : Descriptor.File := oneFieldFile "ping.proto" "Ping" "seq" 13

/-- A file like `ping`, of another name and with another message. -/
def pong : Descriptor.File := oneFieldFile "pong.proto" "Pong" "seq" 13

/-- A file with a field of message type that names no type. -/
def orphan : Descriptor.File := oneFieldFile "orphan.proto" "Orphan" "parent" 11

/-- Two files in either order, one that fails before and behind another, and one that is not
requested. -/
theorem units_independent_pingPong :
    (∃ all all', (units [ping, pong] ["ping.proto", "pong.proto"] {}).outcome = .ok all ∧
      (units [pong, ping] ["ping.proto", "pong.proto"] {}).outcome = .ok all' ∧
      (∃ made, List.Forall₂ (HasUnit {}) [ping, pong] made ∧ made ++ [runtimeUnit {}] = all) ∧
      ∃ unitOf : Descriptor.File → SourceUnit,
        [ping, pong].map unitOf ++ [runtimeUnit {}] = all ∧
        [pong, ping].map unitOf ++ [runtimeUnit {}] = all') ∧
    ((∃ failure, (units [ping, orphan] ["ping.proto", "orphan.proto"] {}).outcome =
        .error (.failed failure)) ↔
      ∃ failure, (units [orphan, ping] ["ping.proto", "orphan.proto"] {}).outcome =
        .error (.failed failure)) ∧
    units [ping, orphan, pong] ["pong.proto", "ping.proto", "ping.proto"] {} =
      units [ping, pong] ["ping.proto", "pong.proto"] {} := by
  obtain ⟨halone, hperm, hnames⟩ := units_independent {}
  refine ⟨?_, ?_, ?_⟩
  · have hok : (units [ping, pong] ["ping.proto", "pong.proto"] {}).outcome.toOption.isSome := by
      decide +kernel
    obtain ⟨all, hall⟩ := toOption_isSome.mp hok
    have hswap := hperm [ping, pong] [pong, ping] ["ping.proto", "pong.proto"] (.swap pong ping [])
    obtain ⟨all', hall'⟩ := hswap.1.mp ⟨all, hall⟩
    exact ⟨all, all', hall, hall', (halone _ _ all hall).1, hswap.2.2 all all' hall hall'⟩
  · refine (hperm [ping, orphan] [orphan, ping] _ (.swap orphan ping [])).2.1 fun file hfile => ?_
    have hnameable : ∀ file ∈ requested [ping, orphan] ["ping.proto", "orphan.proto"],
        Emit.FileNameable file := by
      decide +kernel
    exact (Emit.fileUnit_hingesOn file {}).not_endsAtName (hnameable file hfile)
  · refine hnames _ _ _ _ (fun name => ?_) rfl
    simp [or_comm]

end Wiregen.Run
