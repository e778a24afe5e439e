import Mathlib.Data.List.Nodup
import Wiregen.Proofs.Run.Path
import Wiregen.Proofs.Run.Tree

/-!
# What stands where

A path leads to one place, whatever there is (`Disk.place`), and an operation that succeeds changes
what stands at that place only: a directory is made where nothing is (`Disk.makeDirectory_eq_ok`), a
file is written where nothing is or a file (`Disk.write_eq_ok`). So directories stay (`Disk.Keeps`),
and a path goes on leading to the file it leads to (`Disk.Leads.holds_of_keeps`).
-/

namespace Wiregen.Run

/-! ## Places of paths -/

namespace Disk

open Location (nextPlace)

/-- What stands at a place. -/
def view (disk : Disk) (place : List String) : Option Thing := disk.root.view place

/-- The place that a path leads to, with its empty pieces and lone dots left out and its names that
lead up followed. -/
def place (disk : Disk) (path : String) : List String :=
  ((if isRooted path then [] else disk.workingDirectory) ++ pathNames path).foldl nextPlace []

/-- A plain path below a directory leads down from the directory's place. -/
theorem place_joinPath (disk : Disk) (directory : String) {path : String} (h : IsPlain path) :
    disk.place (joinPath directory path) = disk.place directory ++ pathNames path := by
  rw [place, isRooted_joinPath h.isRooted_eq, pathNames_joinPath h.isRooted_eq, ← List.append_assoc,
    List.foldl_append, Location.foldl_nextPlace h.up_notMem, place]

/-- Different plain paths lead to different places. -/
theorem nodup_places (disk : Disk) (directory : String) {paths : List String}
    (hplain : ∀ path ∈ paths, IsPlain path) (h : paths.Nodup) :
    (paths.map fun path => disk.place (joinPath directory path)).Nodup := by
  refine h.map_on fun path hpath path' hpath' hplace => ?_
  rw [place_joinPath _ _ (hplain path hpath), place_joinPath _ _ (hplain path' hpath')] at hplace
  exact (hplain path hpath).eq_of_pathNames_eq (hplain path' hpath')
    (List.append_cancel_left hplace)

/-- A path leads to a name in a directory that is there. -/
def Leads (disk : Disk) (path : String) (location : Location) (name : String) : Prop :=
  pathError? path = none ∧ name ≠ ".." ∧ name.utf8ByteSize ≤ maxNameBytes ∧
    ∃ above, pathNames path = above ++ [name] ∧ disk.locate path above = .ok location

/-- The directories of one disk are on another as well. -/
structure Keeps (disk disk' : Disk) : Prop where
  workingDirectory : disk'.workingDirectory = disk.workingDirectory
  directories : ∀ place, disk.view place = some .directory → disk'.view place = some .directory

variable {disk disk' disk'' : Disk} {path : String} {location : Location} {name : String}

/-- The root is a directory of its tree. -/
theorem isIn_root (root : Entries) : Location.IsIn { entries := root } root := rfl

/-- Names lead to a directory of the tree, at the place they spell from where the path starts. -/
theorem locate_spec {names : List String} (h : disk.locate path names = .ok location) :
    location.IsIn disk.root ∧ location.place =
      ((if isRooted path then [] else disk.workingDirectory) ++ names).foldl nextPlace [] :=
  (isIn_root disk.root).enter_all h

namespace Leads

variable (h : disk.Leads path location name)
include h

/-- The directory is one of the disk. -/
theorem isIn : location.IsIn disk.root := by
  obtain ⟨-, -, -, above, -, hlocate⟩ := h
  exact (locate_spec hlocate).1

/-- The path leads to the place of the directory with the name behind it. -/
theorem place_eq : disk.place path = location.place ++ [name] := by
  obtain ⟨-, hup, -, above, hnames, hlocate⟩ := h
  rw [place, hnames, ← List.append_assoc, List.foldl_append, ← (locate_spec hlocate).2,
    List.foldl_cons, List.foldl_nil, nextPlace, if_neg hup]

/-- Where the path leads stands what the name stands for in the directory. -/
theorem view_eq : disk.view (disk.place path) =
    (location.entries.lookup name).map Node.thing := by
  rw [h.place_eq, view, h.isIn.view_name]

/-- Where directories stay, the path goes on leading to the name in a directory that is there. -/
theorem of_keeps (hkeeps : disk.Keeps disk') : ∃ location', disk'.Leads path location' name := by
  obtain ⟨herror, hup, hsize, above, hnames, hlocate⟩ := h
  obtain ⟨location', hlocate', -⟩ := (isIn_root disk.root).enter_all_of_keeps hkeeps.directories
    (isIn_root disk'.root) rfl hlocate
  refine ⟨location', herror, hup, hsize, above, hnames, ?_⟩
  rw [locate, hkeeps.workingDirectory]
  exact hlocate'

end Leads

/-- A disk has its own directories. -/
theorem Keeps.refl (disk : Disk) : disk.Keeps disk := ⟨rfl, fun _ => id⟩

/-- Directories that stay in two steps stay in both together. -/
theorem Keeps.trans (h : disk.Keeps disk') (h' : disk'.Keeps disk'') : disk.Keeps disk'' :=
  ⟨h'.workingDirectory.trans h.workingDirectory,
    fun place hplace => h'.directories place (h.directories place hplace)⟩

/-- Paths go on leading to the same places. -/
theorem Keeps.place_eq (h : disk.Keeps disk') (path : String) :
    disk'.place path = disk.place path := by
  rw [place, place, h.workingDirectory]

/-! ## Operations -/

/-- A path passes if it has no error as it is written. -/
theorem checkPath_eq_ok {done : Unit} : checkPath path = .ok done ↔ pathError? path = none := by
  unfold checkPath
  cases pathError? path <;> simp

section
variable {α : Type} {result : α} {error : DiskError} {act : Location → String → Except DiskError α}

/-- An operation on a path is one on a name in a directory that is there. -/
theorem Leads.named_eq_ok (h : disk.Leads path location name)
    (hact : act location name = .ok result) :
    (do
      checkPath path
      match (pathNames path).reverse with
      | [] => throw error
      | name :: above =>
        let location ← disk.locate path above.reverse
        act location name) = .ok result := by
  obtain ⟨hpath, -, -, above, hnames, hlocate⟩ := h
  refine bind_eq_ok.mpr ⟨(), checkPath_eq_ok.mpr hpath, ?_⟩
  rw [hnames, List.reverse_append, List.reverse_singleton, List.singleton_append]
  exact bind_eq_ok.mpr ⟨location, by rwa [List.reverse_reverse], hact⟩

/-- An operation on a path that succeeds is one on a name in a directory that is there. -/
theorem exists_leads_of_named_eq_ok
    (hact : ∀ location name, act location name = .ok result →
      name ≠ ".." ∧ name.utf8ByteSize ≤ maxNameBytes)
    (h : (do
      checkPath path
      match (pathNames path).reverse with
      | [] => throw error
      | name :: above =>
        let location ← disk.locate path above.reverse
        act location name) = .ok result) :
    ∃ location name, disk.Leads path location name ∧ act location name = .ok result := by
  obtain ⟨done, hpath, h⟩ := bind_eq_ok.mp h
  split at h
  next => cases h
  next name above hnames =>
    obtain ⟨location, hlocate, h⟩ := bind_eq_ok.mp h
    obtain ⟨hup, hsize⟩ := hact location name h
    have hnames' : pathNames path = above.reverse ++ [name] := by
      rw [← List.reverse_reverse (pathNames path), hnames, List.reverse_cons]
    exact ⟨location, name,
      ⟨checkPath_eq_ok.mp hpath, hup, hsize, above.reverse, hnames', hlocate⟩, h⟩

end

/-- Paths through the same names read the same, as far as they may be read. -/
theorem read_congr (disk : Disk) (stdin : List UInt8) {path' : String}
    (herror : pathError? path = pathError? path') (hrooted : isRooted path = isRooted path')
    (hnames : pathNames path = pathNames path')
    (hends : endsAsDirectory path = endsAsDirectory path') :
    disk.read stdin path = disk.read stdin path' := by
  simp only [read, locate, checkPath, herror, hrooted, hnames, hends]

/-- The disk holds a file with this content where the path leads. -/
def Holds (disk : Disk) (path : String) (content : List UInt8) : Prop :=
  endsAsDirectory path = false ∧ ∃ location name, disk.Leads path location name ∧
    location.entries.lookup name = some (.file content)

/-- A file that is held is read as it is. -/
theorem Holds.read_eq {content : List UInt8} (h : disk.Holds path content) (stdin : List UInt8) :
    disk.read stdin path = .ok content := by
  obtain ⟨hends, location, name, hleads, hlookup⟩ := h
  have hfind := (Location.find_eq_ok hleads.2.1).mpr ⟨hleads.2.2.1, hlookup⟩
  refine hleads.named_eq_ok ?_
  simp only [hfind, hends, bind, Except.bind]
  rfl

/-- A file that is held stands where the path leads. -/
theorem Holds.view_eq {content : List UInt8} (h : disk.Holds path content) :
    disk.view (disk.place path) = some (.file content) := by
  obtain ⟨-, location, name, hleads, hlookup⟩ := h
  rw [hleads.view_eq, hlookup]
  rfl

/-- A file is held as long as directories stay and it does. -/
theorem Leads.holds_of_keeps {content : List UInt8} (h : disk.Leads path location name)
    (hends : endsAsDirectory path = false) (hkeeps : disk.Keeps disk')
    (hview : disk'.view (disk.place path) = some (.file content)) : disk'.Holds path content := by
  obtain ⟨location', hleads⟩ := h.of_keeps hkeeps
  rw [← hkeeps.place_eq, hleads.view_eq] at hview
  obtain ⟨node, hnode, hthing⟩ := Option.map_eq_some_iff.mp hview
  refine ⟨hends, location', name, hleads, ?_⟩
  cases node with
  | file => rw [hnode, Thing.file.inj hthing]
  | device | directory => cases hthing

section
variable (node : Node) (h : disk.Leads path location name)
  (hold : ∀ inner, location.entries.lookup name ≠ some (.directory inner))
  (hnode : ∀ next names, Node.view (next :: names) node = none)
include h hold hnode

/-- The disk once the path leads to a node without anything below, in place of one without anything
below. -/
theorem Leads.view_put : Disk.view { disk with root := location.put name node } =
    Function.update disk.view (disk.place path) (some node.thing) := by
  rw [h.place_eq]
  exact h.isIn.view_put hold hnode

/-- Directories stay where a node without anything below takes the place of another such. -/
theorem Leads.keeps_put : disk.Keeps { disk with root := location.put name node } := by
  refine ⟨rfl, fun place hplace => ?_⟩
  have hne : place ≠ disk.place path := by
    rintro rfl
    rw [h.view_eq] at hplace
    obtain ⟨old, hlookup, hthing⟩ := Option.map_eq_some_iff.mp hplace
    cases old with
    | file | device => cases hthing
    | directory inner => exact hold inner hlookup
  rw [h.view_put node hold hnode, Function.update_of_ne hne, hplace]

end

/-- A directory is made where nothing is, and changes nothing elsewhere. -/
theorem makeDirectory_eq_ok (h : disk.makeDirectory path = .ok disk') :
    disk'.workingDirectory = disk.workingDirectory ∧ disk.view (disk.place path) = none ∧
      disk'.view = Function.update disk.view (disk.place path) (some .directory) := by
  have hnamed := exists_leads_of_named_eq_ok (fun location name h => ?named) h
  case named =>
    obtain ⟨found, hfound, h⟩ := bind_eq_ok.mp h
    rcases Location.find_cases hfound with ⟨entries, rfl⟩ | ⟨hup, hsize, -⟩
    · cases h
    · exact ⟨hup, hsize⟩
  obtain ⟨location, name, hleads, h⟩ := hnamed
  obtain ⟨found, hfound, h⟩ := bind_eq_ok.mp h
  obtain ⟨-, hlookup⟩ := (Location.find_eq_ok hleads.2.1).mp hfound
  cases found with
  | some node => cases h
  | none =>
    obtain rfl := Except.ok.inj h
    refine ⟨rfl, by rw [hleads.view_eq, hlookup, Option.map_none], ?_⟩
    exact hleads.view_put (.directory []) (by simp [hlookup]) fun _ _ => rfl

/-- A file is written where nothing is or a file, and changes nothing elsewhere; or a device gets
the content, and nothing changes. -/
theorem write_eq_ok {content : List UInt8} {receiver : Option Stream}
    (h : disk.write path content = .ok (disk', receiver)) :
    disk.Keeps disk' ∧
      (disk' = disk ∧ (∃ device, disk.view (disk.place path) = some (.device device)) ∨
        disk'.Holds path content ∧
          disk'.view = Function.update disk.view (disk.place path) (some (.file content))) := by
  have hnamed := exists_leads_of_named_eq_ok (fun location name h => ?named) h
  case named =>
    split at h
    · cases h
    obtain ⟨found, hfound, h⟩ := bind_eq_ok.mp h
    rcases Location.find_cases hfound with ⟨entries, rfl⟩ | ⟨hup, hsize, -⟩
    · cases h
    · exact ⟨hup, hsize⟩
  obtain ⟨location, name, hleads, h⟩ := hnamed
  split at h
  · cases h
  next hends =>
  obtain ⟨found, hfound, h⟩ := bind_eq_ok.mp h
  obtain ⟨-, hlookup⟩ := (Location.find_eq_ok hleads.2.1).mp hfound
  split at h
  next => cases h
  next device =>
    obtain ⟨_, -, h⟩ := bind_eq_ok.mp h
    obtain ⟨rfl, -⟩ := Prod.mk.inj (Except.ok.inj h)
    exact ⟨.refl disk, .inl ⟨rfl, device, by rw [hleads.view_eq, hlookup]; rfl⟩⟩
  next hdirectory hdevice =>
    obtain ⟨rfl, -⟩ := Prod.mk.inj (Except.ok.inj h)
    have hold : ∀ inner, location.entries.lookup name ≠ some (.directory inner) := by
      rw [hlookup]
      exact hdirectory
    have hview := hleads.view_put (.file content) hold fun _ _ => rfl
    have hkeeps := hleads.keeps_put (.file content) hold fun _ _ => rfl
    refine ⟨hkeeps, .inr ⟨hleads.holds_of_keeps (by simpa using hends) hkeeps ?_, hview⟩⟩
    rw [hview, Function.update_self]
    rfl

/-- What stands at the place in one disk does so in the other, or a directory where there was
nothing. -/
def GrowsAt (disk disk' : Disk) (place : List String) : Prop :=
  disk'.view place = disk.view place ∨ disk.view place = none ∧ disk'.view place = some .directory

/-- What grows at a place in two steps does so in both together. -/
theorem GrowsAt.trans {place : List String} (h : disk.GrowsAt disk' place)
    (h' : disk'.GrowsAt disk'' place) : disk.GrowsAt disk'' place := by
  rcases h with hsame | ⟨hnone, hnew⟩
  · rwa [GrowsAt, ← hsame]
  · refine .inr ⟨hnone, ?_⟩
    rcases h' with hsame' | ⟨hnone', -⟩
    · rw [hsame', hnew]
    · rw [hnew] at hnone'
      cases hnone'

/-- One disk has what the other has, and directories where that has nothing. -/
structure Grows (disk disk' : Disk) : Prop where
  workingDirectory : disk'.workingDirectory = disk.workingDirectory
  places : ∀ place, disk'.view place = disk.view place ∨
    disk.view place = none ∧ disk'.view place = some .directory

namespace Grows

/-- A disk has what it has. -/
theorem refl (disk : Disk) : disk.Grows disk := ⟨rfl, fun _ => .inl rfl⟩

/-- A disk that grows in two steps does so in both together. -/
theorem trans (h : disk.Grows disk') (h' : disk'.Grows disk'') : disk.Grows disk'' :=
  ⟨h'.workingDirectory.trans h.workingDirectory,
    fun place => GrowsAt.trans (h.places place) (h'.places place)⟩

/-- What stands at a place goes on standing there. -/
theorem view_eq (h : disk.Grows disk') {place : List String} {thing : Thing}
    (hplace : disk.view place = some thing) : disk'.view place = some thing := by
  rcases h.places place with hsame | ⟨hnone, -⟩
  · rw [hsame, hplace]
  · rw [hplace] at hnone
    cases hnone

/-- Only directories are new. -/
theorem view_eq_device (h : disk.Grows disk') {place : List String} {device : Device}
    (hplace : disk'.view place = some (.device device)) :
    disk.view place = some (.device device) := by
  rcases h.places place with hsame | ⟨-, hnew⟩
  · rw [← hsame, hplace]
  · rw [hplace] at hnew
    cases hnew

/-- Where a disk grows, its directories stay. -/
theorem keeps (h : disk.Grows disk') : disk.Keeps disk' := ⟨h.workingDirectory, fun _ => h.view_eq⟩

end Grows

/-- A disk grows by a directory that is made. -/
theorem makeDirectory_grows (h : disk.makeDirectory path = .ok disk') : disk.Grows disk' := by
  obtain ⟨hworking, hnone, hview⟩ := makeDirectory_eq_ok h
  refine ⟨hworking, fun place => ?_⟩
  rw [hview, Function.update_apply]
  split
  next hplace => exact .inr ⟨by rw [hplace, hnone], rfl⟩
  next => exact .inl rfl

/-- A disk grows by a directory that is made, or stays as it is where there is one. -/
theorem ensureDirectory_grows (h : disk.ensureDirectory path = .ok disk') : disk.Grows disk' := by
  unfold ensureDirectory at h
  split at h
  next made hmade =>
    obtain rfl := Except.ok.inj h
    exact makeDirectory_grows hmade
  next =>
    split at h
    · obtain rfl := Except.ok.inj h
      exact .refl disk
    · cases h

/-- A disk grows by directories that are made above each other. -/
theorem ensureDirectories_grows {paths : List String}
    (h : disk.ensureDirectories paths = .ok disk') : disk.Grows disk' := by
  induction paths generalizing disk' with
  | nil =>
    obtain rfl := Except.ok.inj h
    exact .refl disk
  | cons path above ih =>
    unfold ensureDirectories at h
    split at h
    next =>
      obtain ⟨between, habove, hpath⟩ := bind_eq_ok.mp h
      exact (ih habove).trans (ensureDirectory_grows hpath)
    next => exact ensureDirectory_grows h

/-- Directories above a path are made where nothing is. -/
theorem makeParents_grows (h : disk.makeParents path = .ok disk') : disk.Grows disk' :=
  ensureDirectories_grows h

end Disk

end Wiregen.Run
