import Wiregen.Proofs.Run.Disk
import Wiregen.Proofs.Run.Outcome

/-!
# No unit over another

Writing a unit changes what stands at its own place only (`Disk.write_in_made`), so units that have
places of their own are all on the disk in the end (`writeUnits_holds`). The paths of the units of a
run are different unless two files share theirs, or the runtime unit is given that of a file
(`nodup_unit_names_iff`); the directory of a schema file does not count (`unit_names_collide`). What
this comes to is `units_written_apart`.
-/

namespace Wiregen.Run

open Emit (SourceUnit)
open Wire (Bytes)

/-! ## Writing -/

/-- What stands at the place in one disk does so in the other, and no device is new there. -/
structure Disk.StaysAt (disk disk' : Disk) (place : List String) : Prop where
  thing : ∀ thing, disk.view place = some thing → disk'.view place = some thing
  device : ∀ device, disk'.view place = some (.device device) →
    disk.view place = some (.device device)

/-- The disk holds the content where the path leads, or a device stood there that got it. -/
def Disk.Got (before after : Disk) (path : String) (content : Bytes) : Prop :=
  after.Holds path content ∨ ∃ device, before.view (before.place path) = some (.device device)

section
variable {disk disk' disk'' : Disk} {path : String} {content : Bytes} {place : List String}

/-- At any place a disk stays as it is. -/
theorem Disk.StaysAt.refl (disk : Disk) (place : List String) : disk.StaysAt disk place :=
  ⟨fun _ => id, fun _ => id⟩

/-- What stays at a place in two steps stays in both together. -/
theorem Disk.StaysAt.trans (h : disk.StaysAt disk' place) (h' : disk'.StaysAt disk'' place) :
    disk.StaysAt disk'' place :=
  ⟨fun thing hthing => h'.thing thing (h.thing thing hthing),
    fun device hdevice => h.device device (h'.device device hdevice)⟩

/-- Where a disk grows, what is there stays. -/
theorem Disk.Grows.staysAt (h : disk.Grows disk') (place : List String) :
    disk.StaysAt disk' place :=
  ⟨fun _ => h.view_eq, fun _ => h.view_eq_device⟩

/-- Where nothing changes any more, what was got is held. -/
theorem Disk.Got.of_staysAt (h : disk.Got disk' path content) (hkeeps : disk'.Keeps disk'')
    (hsame : disk'.place path = disk.place path) (hstays : disk'.StaysAt disk'' (disk.place path)) :
    disk.Got disk'' path content := by
  refine h.imp_left fun hholds => ?_
  obtain ⟨hends, location, name, hleads, -⟩ := id hholds
  refine hleads.holds_of_keeps hends hkeeps ?_
  rw [hsame]
  exact hstays.thing _ (hsame ▸ hholds.view_eq)

/-- A path gets its content in a directory that is made for it, and nothing changes elsewhere. -/
theorem Disk.write_in_made {made : Disk} {receiver : Option Stream}
    (hmade : disk.makeParents path = .ok made)
    (hwrite : made.write path content = .ok (disk', receiver)) :
    disk.Keeps disk' ∧ disk.Got disk' path content ∧
      ∀ place ≠ disk.place path, disk.StaysAt disk' place := by
  have hgrows := makeParents_grows hmade
  obtain ⟨hkeeps, hwrite⟩ := write_eq_ok hwrite
  have hsame := hgrows.keeps.place_eq path
  rw [hsame] at hwrite
  refine ⟨hgrows.keeps.trans hkeeps, ?_, fun place hplace => (hgrows.staysAt place).trans ?_⟩
  · rcases hwrite with ⟨rfl, device, hdevice⟩ | ⟨hholds, -⟩
    · exact .inr ⟨device, hgrows.view_eq_device hdevice⟩
    · exact .inl hholds
  · rcases hwrite with ⟨rfl, -⟩ | ⟨-, hview⟩
    · exact .refl _ place
    · have hother : disk'.view place = made.view place := by
        rw [hview, Function.update_of_ne hplace]
      exact ⟨fun _ h => hother.trans h, fun _ h => hother.symm.trans h⟩

end

/-- The path of a unit below a directory. -/
def unitFile (directory : String) (unit : SourceUnit) : String := joinPath directory unit.name

variable {disk : Disk} {directory : String} {unit : SourceUnit} {others all : List SourceUnit}

/-- The first unit has no directory, or cannot be written there, or is written before the others. -/
theorem writeUnits_cons_cases (disk : Disk) (directory : String) (unit : SourceUnit)
    (others : List SourceUnit) :
    let path := unitFile directory unit
    let written := writeUnits disk directory (unit :: others)
    written.disk = disk ∧ written.complaint ≠ none ∨
      ∃ made, disk.makeParents path = .ok made ∧
        (written.disk = made ∧ written.complaint ≠ none ∨
          ∃ between receiver,
            made.write path (Wire.Utf8.encode unit.content) = .ok (between, receiver) ∧
            written.disk = (writeUnits between directory others).disk ∧
            written.complaint = (writeUnits between directory others).complaint) := by
  -- The equation of this case takes Lean much longer to prove than that of the whole definition.
  have hcons := writeUnits.eq_def disk directory (unit :: others)
  dsimp only at hcons
  intro path written
  simp only [written, hcons, path, unitFile]
  cases hmade : disk.makeParents (joinPath directory unit.name) with
  | error error => exact .inl ⟨rfl, nofun⟩
  | ok made =>
    refine .inr ⟨made, rfl, ?_⟩
    cases hwrite : made.write (joinPath directory unit.name) (Wire.Utf8.encode unit.content) with
    | error error => exact .inl ⟨by simp only [hwrite], by simp [hwrite]⟩
    | ok result =>
      exact .inr ⟨result.1, result.2, rfl, by simp only [hwrite], by simp only [hwrite]⟩

/-- Units that are all written are the first one and then the others. -/
theorem writeUnits_cons (h : (writeUnits disk directory (unit :: others)).complaint = none) :
    ∃ made between receiver, disk.makeParents (unitFile directory unit) = .ok made ∧
      made.write (unitFile directory unit) (Wire.Utf8.encode unit.content) =
        .ok (between, receiver) ∧
      (writeUnits between directory others).complaint = none ∧
      (writeUnits disk directory (unit :: others)).disk =
        (writeUnits between directory others).disk := by
  obtain ⟨-, hcomplaint⟩ | ⟨made, hmade, hcases⟩ :=
    writeUnits_cons_cases disk directory unit others
  · exact absurd h hcomplaint
  obtain ⟨-, hcomplaint⟩ | ⟨between, receiver, hwrite, hdisk, hsame⟩ := hcases
  · exact absurd h hcomplaint
  · exact ⟨made, between, receiver, hmade, hwrite, hsame ▸ h, hdisk⟩

/-- Writing units changes nothing elsewhere. -/
theorem writeUnits_staysAt (h : (writeUnits disk directory all).complaint = none) :
    disk.Keeps (writeUnits disk directory all).disk ∧
      ∀ place ∉ all.map fun unit => disk.place (unitFile directory unit),
        disk.StaysAt (writeUnits disk directory all).disk place := by
  induction all generalizing disk with
  | nil => exact ⟨.refl disk, fun place _ => .refl disk place⟩
  | cons unit others ih =>
    obtain ⟨made, between, receiver, hmade, hwrite, hothers, hdisk⟩ := writeUnits_cons h
    obtain ⟨hkeeps, -, helse⟩ := Disk.write_in_made hmade hwrite
    obtain ⟨hkeeps', hstays⟩ := ih hothers
    rw [hdisk]
    refine ⟨hkeeps.trans hkeeps', fun place hplace => ?_⟩
    rw [List.map_cons, List.mem_cons, not_or] at hplace
    refine (helse place hplace.1).trans (hstays place ?_)
    simpa only [hkeeps.place_eq] using hplace.2

/-- Units that have places of their own are all on the disk once they are written. -/
theorem writeUnits_holds (h : (writeUnits disk directory all).complaint = none)
    (hapart : (all.map fun unit => disk.place (unitFile directory unit)).Nodup) :
    ∀ unit ∈ all, disk.Got (writeUnits disk directory all).disk (unitFile directory unit)
      (Wire.Utf8.encode unit.content) := by
  induction all generalizing disk with
  | nil => simp
  | cons unit others ih =>
    obtain ⟨made, between, receiver, hmade, hwrite, hothers, hdisk⟩ := writeUnits_cons h
    obtain ⟨hkeeps, hgot, helse⟩ := Disk.write_in_made hmade hwrite
    obtain ⟨hkeeps', hstays⟩ := writeUnits_staysAt hothers
    rw [List.map_cons, List.nodup_cons] at hapart
    obtain ⟨hfirst, hapart⟩ := hapart
    have hgots := ih hothers (by simpa only [hkeeps.place_eq] using hapart)
    simp only [hkeeps.place_eq] at hstays
    rw [hdisk, List.forall_mem_cons]
    refine ⟨hgot.of_staysAt hkeeps' (hkeeps.place_eq _) (hstays _ hfirst), fun other hother => ?_⟩
    refine (hgots other hother).imp_right fun ⟨device, hdevice⟩ => ⟨device, ?_⟩
    have hplace : disk.place (unitFile directory other) ≠ disk.place (unitFile directory unit) := by
      intro heq
      exact hfirst (heq ▸ List.mem_map.mpr ⟨other, hother, rfl⟩)
    rw [hkeeps.place_eq] at hdevice
    exact (helse _ hplace).device device hdevice

/-! ## Paths of the units of a run -/

/-- The path of the unit of a file. -/
def unitPathOf (file : Descriptor.File) : String :=
  Naming.unitPath file.nameText file.packageText

/-- The files have the same package directory and the same name in capitalized words. -/
def SharesPath (f g : Descriptor.File) : Prop :=
  Naming.packageDirectory f.packageText = Naming.packageDirectory g.packageText ∧
    Naming.fileWord f.nameText = Naming.fileWord g.nameText

instance : DecidableRel SharesPath := fun _ _ => inferInstanceAs (Decidable (_ ∧ _))

variable {files : List Descriptor.File} {names : List String} {options : Options}

/-- The unit of a file is called by the file's path. -/
theorem HasUnit.name_eq {file : Descriptor.File} (h : HasUnit options file unit) :
    unit.name = unitPathOf file := by
  obtain ⟨ctx, -, h⟩ := Emit.Reported.bind_eq_ok.mp h
  obtain ⟨schema, hschema, h⟩ := Emit.Reported.bind_eq_ok.mp h
  obtain ⟨items, -, h⟩ := Emit.Reported.bind_eq_ok.mp h
  obtain ⟨messages, -, hschema⟩ := bind_eq_ok.mp (Emit.halting_eq_ok.mp hschema)
  obtain rfl := Except.ok.inj hschema
  split at h
  · obtain rfl := Except.ok.inj h
    rfl
  · cases h

/-- The units of a run have the paths of their files, and the runtime unit has the one it is
given. -/
theorem unit_names_eq (h : (units files names options).outcome = .ok all) :
    all.map (·.name) = (requested files names).map unitPathOf ++ [options.runtimeFile] := by
  obtain ⟨made, hmade, rfl⟩ := units_eq_ok.mp h
  rw [List.map_append]
  congr 1
  clear h
  generalize requested files names = wanted at hmade
  induction hmade with
  | nil => rfl
  | cons hunit _ ih => rw [List.map_cons, List.map_cons, hunit.name_eq, ih]

/-- The units of a run have different names exactly if no two requested files share their path and
none has that of the runtime unit. -/
theorem nodup_unit_names_iff (h : (units files names options).outcome = .ok all) :
    (all.map (·.name)).Nodup ↔
      (requested files names).Pairwise (fun f g => ¬ SharesPath f g) ∧
        ∀ file ∈ requested files names, unitPathOf file ≠ options.runtimeFile := by
  rw [unit_names_eq h, List.nodup_append, List.Nodup, List.pairwise_map]
  simp [unitPathOf, Naming.unitPath_eq_iff, SharesPath]

/-! ## Units on the disk -/

/-- An invocation that reports success has written all units of its descriptor set. -/
theorem invoke_writes_all {program : String} {arguments : List String} {stdin content : Bytes}
    {set parameter : String} {outcome : Outcome}
    (harguments : Task.ofArguments arguments = .writeUnits set directory parameter)
    (hcontent : givenSet disk stdin set = .ok content)
    (houtcome : invoke program arguments disk stdin = .ok outcome) (hcode : outcome.exitCode = 0) :
    ∃ all, (setUnits content parameter).outcome = .ok all ∧
      (writeUnits disk directory all).complaint = none ∧
      outcome.disk = (writeUnits disk directory all).disk := by
  rw [invoke_writeUnits harguments hcontent] at houtcome
  obtain ⟨failure, -, rfl⟩ | ⟨all, hall, hdisk, hcomplaint⟩ := runSet_eq_ok houtcome
  · have hone : (1 : UInt32) ≠ 0 := by decide
    exact absurd hcode hone
  · exact ⟨all, hall, hcomplaint.mp hcode, hdisk⟩

/-- The units of a run have different paths exactly if no two of the requested files share theirs
and none has that of the runtime unit. An invocation that reports success leaves every unit of its
descriptor set on the disk, provided that their paths lead to different places, except for those
that a device got. Different paths do so where they are plain, and that of a unit is unless its
package holds a slash. -/
theorem units_written_apart :
    (∀ files names options all, (units files names options).outcome = .ok all →
      all.map (·.name) = (requested files names).map unitPathOf ++ [options.runtimeFile] ∧
      ((all.map (·.name)).Nodup ↔
        (requested files names).Pairwise (fun f g => ¬ SharesPath f g) ∧
          ∀ file ∈ requested files names, unitPathOf file ≠ options.runtimeFile)) ∧
    (∀ program arguments disk stdin set directory parameter content outcome,
      Task.ofArguments arguments = .writeUnits set directory parameter →
      givenSet disk stdin set = .ok content →
      invoke program arguments disk stdin = .ok outcome → outcome.exitCode = 0 →
      ∃ all, (setUnits content parameter).outcome = .ok all ∧
        ((all.map fun unit => disk.place (unitFile directory unit)).Nodup → ∀ unit ∈ all,
          (∀ input, outcome.disk.read input (unitFile directory unit) =
            .ok (Wire.Utf8.encode unit.content)) ∨
          ∃ device, disk.view (disk.place (unitFile directory unit)) = some (.device device))) ∧
    (∀ (disk : Disk) directory (all : List SourceUnit), (∀ unit ∈ all, IsPlain unit.name) →
      (all.map (·.name)).Nodup →
      (all.map fun unit => disk.place (unitFile directory unit)).Nodup) ∧
    ∀ file package : String, '/' ∉ package.toList → IsPlain (Naming.unitPath file package) := by
  refine ⟨fun files names options all h => ⟨unit_names_eq h, nodup_unit_names_iff h⟩, ?_,
    fun disk directory all hplain h => ?_, fun file package h => isPlain_unitPath file h⟩
  · intro program arguments disk stdin set directory parameter content outcome harguments hcontent
      houtcome hcode
    obtain ⟨all, hall, hcomplaint, hdisk⟩ :=
      invoke_writes_all harguments hcontent houtcome hcode
    refine ⟨all, hall, fun hapart unit hunit => ?_⟩
    rw [hdisk]
    exact (writeUnits_holds hcomplaint hapart unit hunit).imp_left fun hholds => hholds.read_eq
  · have hplaces := disk.nodup_places directory (List.forall_mem_map.mpr hplain) h
    rwa [List.map_map] at hplaces

/-- A file without messages. -/
def emptyFile (name package : String) : Descriptor.File :=
  { name := some name, package := some package }

/-- A file without messages has a unit of nothing but a header. -/
theorem emptyFile_hasUnit (name package : String) :
    HasUnit {} (emptyFile name package) ⟨Naming.unitPath name package, Emit.header name⟩ := by
  have hcontext : (Emit.Context.ofOptions {}).toOption.isSome := by decide +kernel
  obtain ⟨ctx, hcontext⟩ := toOption_isSome.mp hcontext
  have hpretty : Target.pretty [] = "" := by decide +kernel
  have hcontent : Emit.header name ++ Target.pretty [] = Emit.header name := by
    rw [hpretty, String.append_empty]
  rw [← hcontent]
  exact Emit.Reported.bind_eq_ok.mpr ⟨ctx, Emit.halting_eq_ok.mpr hcontext,
    Emit.Reported.bind_eq_ok.mpr ⟨⟨name, package, []⟩, Emit.halting_eq_ok.mpr rfl,
      Emit.Reported.bind_eq_ok.mpr ⟨[], rfl, rfl⟩⟩⟩

/-- Files of different names can share the path of their units, and different paths can lead to the
same place. In both cases one unit is lost. -/
theorem unit_names_collide :
    (∃ all, (units [emptyFile "a/x.proto" "", emptyFile "b/x.proto" ""]
        ["a/x.proto", "b/x.proto"] {}).outcome = .ok all ∧
      ¬ (all.map (·.name)).Nodup ∧ ∀ (disk : Disk) stdin directory, ¬ ∀ unit ∈ all,
        disk.read stdin (unitFile directory unit) = .ok (Wire.Utf8.encode unit.content)) ∧
    ∃ all, (units [emptyFile "a/x.proto" "p.q", emptyFile "b/x.proto" "p//q"]
        ["a/x.proto", "b/x.proto"] {}).outcome = .ok all ∧
      (all.map (·.name)).Nodup ∧ ∀ (disk : Disk) stdin, ¬ ∀ unit ∈ all,
        disk.read stdin (unitFile "out" unit) = .ok (Wire.Utf8.encode unit.content) := by
  have hdiffer : Wire.Utf8.encode (Emit.header "a/x.proto") ≠
      Wire.Utf8.encode (Emit.header "b/x.proto") := by
    decide +kernel
  have hunits : ∀ p q, (units [emptyFile "a/x.proto" p, emptyFile "b/x.proto" q]
      ["a/x.proto", "b/x.proto"] {}).outcome = .ok
        [⟨Naming.unitPath "a/x.proto" p, Emit.header "a/x.proto"⟩,
          ⟨Naming.unitPath "b/x.proto" q, Emit.header "b/x.proto"⟩, runtimeUnit {}] := by
    intro p q
    exact units_eq_ok.mpr
      ⟨_, .cons (emptyFile_hasUnit _ p) (.cons (emptyFile_hasUnit _ q) .nil), rfl⟩
  refine ⟨⟨_, hunits "" "", by decide +kernel, fun disk stdin directory h => ?_⟩,
    ⟨_, hunits "p.q" "p//q", by decide +kernel, fun disk stdin h => ?_⟩⟩
  · rw [List.forall_mem_cons, List.forall_mem_cons] at h
    have hpath : Naming.unitPath "a/x.proto" "" = Naming.unitPath "b/x.proto" "" := by
      decide +kernel
    obtain ⟨ha, hb, -⟩ := h
    rw [unitFile, hpath] at ha
    exact hdiffer (Except.ok.inj (ha.symm.trans hb))
  · rw [List.forall_mem_cons, List.forall_mem_cons] at h
    have hsingle : joinPath "out" (Naming.unitPath "a/x.proto" "p.q") = "out/p/q/X.pb.rs" := by
      decide +kernel
    have hdouble : joinPath "out" (Naming.unitPath "b/x.proto" "p//q") = "out/p//q/X.pb.rs" := by
      decide +kernel
    have hsame : disk.read stdin "out/p//q/X.pb.rs" = disk.read stdin "out/p/q/X.pb.rs" :=
      disk.read_congr stdin (by decide +kernel) (by decide +kernel) (by decide +kernel)
        (by decide +kernel)
    obtain ⟨ha, hb, -⟩ := h
    rw [unitFile, hsingle] at ha
    rw [unitFile, hdouble, hsame] at hb
    exact hdiffer (Except.ok.inj (ha.symm.trans hb))

/-- A set of two files, each with an empty message. -/
def twoFileSet : Bytes :=
  [0x0A, 0x0E, 0x0A, 0x07, 0x61, 0x2E, 0x70, 0x72, 0x6F, 0x74, 0x6F, 0x22, 0x03, 0x0A, 0x01, 0x4D,
    0x0A, 0x0E, 0x0A, 0x07, 0x62, 0x2E, 0x70, 0x72, 0x6F, 0x74, 0x6F, 0x22, 0x03, 0x0A, 0x01, 0x4D]

/-- Two files and the runtime unit in a directory of their own. -/
theorem units_written_apart_twoFiles :
    (∃ all, (units [ping, pong] ["ping.proto", "pong.proto"] {}).outcome = .ok all ∧
      (all.map (·.name)).Nodup) ∧
    IsPlain (Naming.unitPath "dir/my_file.proto" "a.b") ∧
    ∃ outcome all, invoke "wiregen" ["-", "out"] (.holding []) twoFileSet = .ok outcome ∧
      outcome.exitCode = 0 ∧ (setUnits twoFileSet "").outcome = .ok all ∧
      all.map (·.name) = ["A.pb.rs", "B.pb.rs", "protobuf_runtime.rs"] ∧
      ∀ unit ∈ all, ∀ input, outcome.disk.read input (unitFile "out" unit) =
        .ok (Wire.Utf8.encode unit.content) := by
  obtain ⟨hnames, hwritten, hplaces, hplain⟩ := units_written_apart
  refine ⟨?_, hplain _ "a.b" (by decide), ?_⟩
  · have hok : (units [ping, pong] ["ping.proto", "pong.proto"] {}).outcome.toOption.isSome := by
      decide +kernel
    obtain ⟨all, hall⟩ := toOption_isSome.mp hok
    refine ⟨all, hall, (hnames _ _ _ _ hall).2.mpr ⟨?_, ?_⟩⟩
    · decide +kernel
    · decide +kernel
  · have hcode : (invoke "wiregen" ["-", "out"] (.holding []) twoFileSet).toOption.map
        (·.exitCode) = some 0 := by
      decide +kernel
    obtain ⟨outcome, houtcome, hcode⟩ := Option.map_eq_some_iff.mp hcode
    rw [toOption_eq_some] at houtcome
    obtain ⟨all, hall, hgot⟩ := hwritten "wiregen" ["-", "out"] (.holding []) twoFileSet
      "-" "out" "" twoFileSet outcome rfl rfl houtcome hcode
    have hpaths : (setUnits twoFileSet "").outcome.toOption.map (·.map (·.name)) =
        some ["A.pb.rs", "B.pb.rs", "protobuf_runtime.rs"] := by
      decide +kernel
    rw [toOption_eq_some.mpr hall, Option.map_some, Option.some.injEq] at hpaths
    have hname : ∀ unit ∈ all, unit.name ∈ ["A.pb.rs", "B.pb.rs", "protobuf_runtime.rs"] := by
      rw [← hpaths]
      exact fun unit hunit => List.mem_map_of_mem hunit
    have hplainNames : ∀ name ∈ ["A.pb.rs", "B.pb.rs", "protobuf_runtime.rs"], IsPlain name := by
      decide +kernel
    have hempty : ∀ name ∈ ["A.pb.rs", "B.pb.rs", "protobuf_runtime.rs"],
        (Disk.holding []).view ((Disk.holding []).place (joinPath "out" name)) = none := by
      decide +kernel
    have hapart := hplaces (.holding []) "out" all
      (fun unit hunit => hplainNames _ (hname unit hunit)) (by rw [hpaths]; decide)
    refine ⟨outcome, all, houtcome, hcode, hall, hpaths, fun unit hunit => ?_⟩
    refine (hgot hapart unit hunit).resolve_right ?_
    rintro ⟨device, hdevice⟩
    rw [unitFile, hempty _ (hname unit hunit)] at hdevice
    cases hdevice

end Wiregen.Run
