import Wiregen.Proofs.Text.Pieces
import Wiregen.Proofs.UnitPath
import Wiregen.Run.Path

/-!
# Names of a path

Below a directory, a path goes on from where the directory's own path leads (`pathNames_joinPath`).
A plain path is nothing but the names it leads through, none of which leads up, so different plain
paths lead through different names (`IsPlain.eq_of_pathNames_eq`). The path of a unit is plain
unless the package holds a slash (`isPlain_unitPath`).
-/

namespace Wiregen.Run

/-! ## Paths below a directory -/

/-- The names of a path are those before a slash and then those behind it. -/
theorem pathNames_slash (front back : String) :
    pathNames (front ++ "/" ++ back) = pathNames front ++ pathNames back := by
  simp [pathNames, Text.pieces_append_cons]

/-- The names of a path below a directory are those of the directory and then its own. -/
theorem pathNames_joinPath {directory path : String} (h : isRooted path = false) :
    pathNames (joinPath directory path) = pathNames directory ++ pathNames path := by
  have hempty : pathNames "" = [] := rfl
  rw [joinPath, h, Bool.false_or]
  simp only [decide_eq_true_eq]
  split
  next hdirectory => rw [hdirectory, hempty, List.nil_append]
  next =>
    split
    next hlast =>
      obtain ⟨front, hfront⟩ := List.getLast?_eq_some_iff.mp hlast
      obtain rfl : directory = String.ofList front ++ "/" := by
        rw [← String.toList_inj, hfront]
        simp
      rw [pathNames_slash, ← String.append_empty (s := String.ofList front ++ "/"),
        pathNames_slash, hempty, List.append_nil]
    next => exact pathNames_slash directory path

/-- A path below a directory starts at the root if that of the directory does. -/
theorem isRooted_joinPath {directory path : String} (h : isRooted path = false) :
    isRooted (joinPath directory path) = isRooted directory := by
  have hempty : isRooted "" = false := rfl
  rw [joinPath, h, Bool.false_or]
  simp only [decide_eq_true_eq]
  split
  next hdirectory => rw [h, hdirectory, hempty]
  next hdirectory =>
    obtain ⟨c, cs, hcs⟩ := List.exists_cons_of_ne_nil (mt String.toList_eq_nil_iff.mp hdirectory)
    split <;> simp [isRooted, hcs]

/-! ## Plain paths -/

/-- A path that is written as the names that it leads through, none of them leading up. -/
def IsPlain (path : String) : Prop :=
  ∀ piece ∈ Text.pieces '/' path.toList, leadsNowhere piece = false ∧ piece ≠ ['.', '.']

instance : DecidablePred IsPlain := fun path =>
  inferInstanceAs (Decidable (∀ piece ∈ Text.pieces '/' path.toList, _))

/-- A path is plain if none of its pieces is empty, a lone dot or two dots. -/
theorem isPlain_iff {path : String} : IsPlain path ↔
    ∀ piece ∈ Text.pieces '/' path.toList, piece ≠ [] ∧ piece ≠ ['.'] ∧ piece ≠ ['.', '.'] := by
  simp [IsPlain, leadsNowhere, and_assoc]

section
variable {path path' : String} (h : IsPlain path)
include h

/-- A plain path does not start at the root. -/
theorem IsPlain.isRooted_eq : isRooted path = false := by
  cases hcs : path.toList with
  | nil => simp [isRooted, hcs]
  | cons c cs =>
    suffices c ≠ '/' by simpa [isRooted, hcs]
    rintro rfl
    have hfirst := h [] (by rw [hcs, Text.pieces_cons_self]; exact List.mem_cons_self)
    exact absurd hfirst.1 (by decide)

/-- The names of a plain path are its pieces. -/
theorem IsPlain.pathNames_eq :
    pathNames path = (Text.pieces '/' path.toList).map String.ofList := by
  rw [pathNames, List.filter_eq_self.mpr fun piece hpiece => by simp [(h piece hpiece).1]]

/-- No name of a plain path leads up. -/
theorem IsPlain.up_notMem : ".." ∉ pathNames path := by
  rw [h.pathNames_eq, List.mem_map]
  rintro ⟨piece, hpiece, hup⟩
  exact (h piece hpiece).2 (by simpa using congrArg String.toList hup)

/-- A plain path is made out by its names. -/
theorem IsPlain.eq_of_pathNames_eq (h' : IsPlain path')
    (hnames : pathNames path = pathNames path') : path = path' := by
  rw [h.pathNames_eq, h'.pathNames_eq] at hnames
  have hpieces : Text.pieces '/' path.toList = Text.pieces '/' path'.toList :=
    (List.map_inj_right fun _ _ => String.ofList_inj.mp).mp hnames
  rw [← String.toList_inj, ← Text.joined_pieces '/' path.toList, hpieces, Text.joined_pieces]

end

/-- Without a slash in the package, each of its segments is the name of a directory. -/
theorem isPlain_unitPath (file : String) {package : String} (h : '/' ∉ package.toList) :
    IsPlain (Naming.unitPath file package) := by
  rw [isPlain_iff, Naming.pieces_unitPath file h, List.forall_mem_append,
    List.forall_mem_singleton]
  constructor
  · intro segment hsegment
    have hdot := Naming.dot_notMem_of_mem_packageSegments hsegment
    refine ⟨?_, ?_, ?_⟩
    · rintro rfl
      exact Naming.nil_notMem_packageSegments package hsegment
    · rintro rfl
      simp at hdot
    · rintro rfl
      simp at hdot
  · have hlong : 6 ≤ (Naming.fileWord file ++ Naming.unitSuffix).toList.length := by
      simp [Naming.unitSuffix]
    refine ⟨?_, ?_, ?_⟩ <;> intro hname <;> simp [hname] at hlong

end Wiregen.Run
