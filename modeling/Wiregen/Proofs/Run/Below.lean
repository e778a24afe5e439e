import Wiregen.Proofs.Run.Written

/-!
# Units below their directory

The names of a plain path lead down from wherever a directory is, so a unit of such a name is
written below the directory. Outside, writing units leaves everything as it is, except that the
directories that lead to theirs are made (`writeUnits_growsOutside`), be it that all units are
written or that one cannot be. The path of a unit is plain whatever the schema file is called,
unless the package holds a slash (`unitPath_leadsBelow`).
-/

namespace Wiregen.Run

open Emit (SourceUnit)
open Wire (Bytes)

/-- Except below a place, one disk has what the other has, and directories where that has
nothing. -/
structure Disk.GrowsOutside (disk disk' : Disk) (top : List String) : Prop where
  workingDirectory : disk'.workingDirectory = disk.workingDirectory
  places : ∀ place, ¬ top <+: place → disk.GrowsAt disk' place

variable {disk disk' disk'' : Disk} {directory path : String} {top : List String}

/-- A disk that grows does so outside of any place. -/
theorem Disk.Grows.growsOutside (h : disk.Grows disk') (top : List String) :
    disk.GrowsOutside disk' top :=
  ⟨h.workingDirectory, fun place _ => h.places place⟩

/-- What grows outside of a place in two steps does so in both together. -/
theorem Disk.GrowsOutside.trans (h : disk.GrowsOutside disk' top)
    (h' : disk'.GrowsOutside disk'' top) : disk.GrowsOutside disk'' top :=
  ⟨h'.workingDirectory.trans h.workingDirectory,
    fun place hplace => (h.places place hplace).trans (h'.places place hplace)⟩

/-- Paths go on leading to the same places. -/
theorem Disk.GrowsOutside.place_eq (h : disk.GrowsOutside disk' top) (path : String) :
    disk'.place path = disk.place path := by
  rw [place, place, h.workingDirectory]

/-- Writing a file below a place changes nothing outside. -/
theorem Disk.write_growsOutside {content : Bytes} {receiver : Option Stream}
    (h : disk.write path content = .ok (disk', receiver)) (hpath : top <+: disk.place path) :
    disk.GrowsOutside disk' top := by
  obtain ⟨hkeeps, ⟨rfl, -⟩ | ⟨-, hview⟩⟩ := write_eq_ok h
  · exact (Grows.refl disk').growsOutside top
  · refine ⟨hkeeps.workingDirectory, fun place hplace => .inl ?_⟩
    have hne : place ≠ disk.place path := by
      rintro rfl
      exact hplace hpath
    rw [hview, Function.update_of_ne hne]

/-- Writing units of plain names changes nothing outside of the directory that they are for, except
that directories are made there. -/
theorem writeUnits_growsOutside {all : List SourceUnit} (hplain : ∀ unit ∈ all, IsPlain unit.name) :
    disk.GrowsOutside (writeUnits disk directory all).disk (disk.place directory) := by
  induction all generalizing disk with
  | nil => exact (Disk.Grows.refl disk).growsOutside _
  | cons unit others ih =>
    obtain ⟨hunit, hothers⟩ := List.forall_mem_cons.mp hplain
    obtain ⟨hsame, -⟩ | ⟨made, hmade, hcases⟩ :=
      writeUnits_cons_cases disk directory unit others
    · rw [hsame]
      exact (Disk.Grows.refl disk).growsOutside _
    have hgrows := (Disk.makeParents_grows hmade).growsOutside (disk.place directory)
    obtain ⟨hsame, -⟩ | ⟨between, receiver, hwrite, hsame, -⟩ := hcases
    · rwa [hsame]
    have hbelow : disk.place directory <+: made.place (unitFile directory unit) := by
      rw [hgrows.place_eq, unitFile, Disk.place_joinPath disk directory hunit]
      exact List.prefix_append _ _
    have hbetween := hgrows.trans (Disk.write_growsOutside hwrite hbelow)
    -- The directory has the same place on the disk that the other units are written to.
    have hrest := @ih between hothers
    rw [hbetween.place_eq] at hrest
    rw [hsame]
    exact hbetween.trans hrest

/-- Whatever the schema file is called, and for every package without a slash, the path of the unit
has the segments of the package for pieces and then the file's word with its suffix. None of them is
empty or made of one or two dots only, and the path does not start at the root. So below any
directory it leads to the place that these pieces lead down to from the directory's own, and writing
the unit changes nothing outside of the directory, except that directories are made there. -/
theorem unitPath_leadsBelow (file : String) {package : String} (h : '/' ∉ package.toList) :
    let path := Naming.unitPath file package
    let pieces := Naming.packageSegments package ++ [(Naming.fileWord file ++ ".pb.rs").toList]
    Text.pieces '/' path.toList = pieces ∧
    (∀ piece ∈ pieces, piece ≠ [] ∧ piece ≠ ['.'] ∧ piece ≠ ['.', '.']) ∧
    isRooted path = false ∧
    ∀ directory : String,
      pathNames (joinPath directory path) = pathNames directory ++ pieces.map String.ofList ∧
      ∀ disk : Disk,
        disk.place (joinPath directory path) = disk.place directory ++ pieces.map String.ofList ∧
        ∀ content : String, disk.GrowsOutside
          (writeUnits disk directory [⟨path, content⟩]).disk (disk.place directory) := by
  intro path pieces
  have hpieces : Text.pieces '/' path.toList = pieces := Naming.pieces_unitPath file h
  have hplain : IsPlain path := isPlain_unitPath file h
  have hnames : pathNames path = pieces.map String.ofList := by rw [hplain.pathNames_eq, hpieces]
  refine ⟨hpieces, hpieces ▸ isPlain_iff.mp hplain, hplain.isRooted_eq, fun directory => ⟨?_, ?_⟩⟩
  · rw [pathNames_joinPath hplain.isRooted_eq, hnames]
  · intro disk
    refine ⟨by rw [Disk.place_joinPath disk directory hplain, hnames], fun content => ?_⟩
    exact writeUnits_growsOutside (List.forall_mem_singleton.mpr hplain)

/-- Neither a schema file called `..` nor empty segments of the package lead up. -/
theorem unitPath_leadsBelow_dots : '/' ∉ "..a..b.".toList ∧
    Naming.unitPath "../x/.." "..a..b." = "a/b/...pb.rs" ∧
    ∀ (disk : Disk) (directory : String), disk.place (joinPath directory "a/b/...pb.rs") =
      disk.place directory ++ ["a", "b", "...pb.rs"] := by
  have hslash : '/' ∉ "..a..b.".toList := by decide
  have hpath : Naming.unitPath "../x/.." "..a..b." = "a/b/...pb.rs" := by decide
  obtain ⟨hpieces, -, -, hbelow⟩ := unitPath_leadsBelow "../x/.." hslash
  refine ⟨hslash, hpath, fun disk directory => ?_⟩
  have hplace := ((hbelow directory).2 disk).1
  rw [← hpieces, hpath] at hplace
  rw [hplace]
  congr 1

end Wiregen.Run
