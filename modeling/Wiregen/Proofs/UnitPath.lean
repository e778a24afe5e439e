import Wiregen.Naming
import Wiregen.Proofs.Text.Pieces
import Wiregen.Proofs.Text.Uppercase

/-!
# Paths of units

The path of a unit is the directory of its package and the word of its file, and it tells the two
(`unitPath_eq_iff`). The word holds no slash, but neither does it hold all of the file's name: of
that, the directory is left out and the letter case of the words. Where the package holds no slash
either, the path has no other slashes than those that it is joined with (`pieces_unitPath`).
-/

namespace Wiregen.Naming

/-- The segments of a package that are not empty. -/
def packageSegments (package : String) : List (List Char) :=
  (Text.pieces '.' package.toList).filter (!·.isEmpty)

/-- The directory of the units of a package. -/
def packageDirectory (package : String) : String :=
  String.ofList (Text.joined '/' (packageSegments package))

/-- The word that the own name of a schema file becomes: `MyFile` for `dir/my_file.proto`. -/
def fileWord (file : String) : String :=
  pascalCase (String.ofList
    (withoutSuffix ".proto".toList (Text.lastPiece '/' file.toList)))

/-- The path of a unit joins the segments of the package and the word of the file. -/
theorem unitPath_eq (file package : String) :
    unitPath file package = String.ofList
      (Text.joined '/' (packageSegments package ++ [(fileWord file ++ unitSuffix).toList])) := rfl

/-! ## Words -/

/-- A name without its suffix has the characters of the name. -/
theorem mem_of_mem_withoutSuffix {suffix cs : List Char} {c : Char}
    (h : c ∈ withoutSuffix suffix cs) : c ∈ cs := by
  unfold withoutSuffix at h
  split at h
  · exact List.mem_of_mem_take h
  · exact h

/-- Case conversion keeps out a character that no upper case holds. -/
theorem notMem_capitalized {sep : Char} (hsep : ¬ Text.IsRaised sep) {cs : List Char}
    (h : sep ∉ cs) : sep ∉ capitalized cs := by
  cases cs with
  | nil => exact h
  | cons c cs =>
    rw [List.mem_cons, not_or] at h
    rw [capitalized, List.mem_append, not_or]
    exact ⟨fun hc => h.1 (Text.mem_of_mem_upper hsep hc), h.2⟩

/-- Pascal case keeps out a character that no upper case holds. -/
theorem notMem_pascalCase {sep : Char} (hsep : ¬ Text.IsRaised sep) {name : String}
    (h : sep ∉ name.toList) : sep ∉ (pascalCase name).toList := by
  rw [pascalCase, String.toList_ofList, List.mem_flatMap]
  rintro ⟨piece, hpiece, hmem⟩
  exact notMem_capitalized hsep (fun hc => h (Text.mem_of_mem_pieces hpiece hc).1) hmem

/-- The word of a file holds no slash. -/
theorem slash_notMem_fileWord (file : String) : '/' ∉ (fileWord file ++ unitSuffix).toList := by
  have hslash : ¬ Text.IsRaised '/' := by decide
  have hword : '/' ∉ (fileWord file).toList := by
    refine notMem_pascalCase hslash ?_
    rw [String.toList_ofList]
    exact fun h => Text.notMem_lastPiece '/' _ (mem_of_mem_withoutSuffix h)
  simp [hword, unitSuffix]

/-! ## Paths -/

/-- No segment of a package is empty. -/
theorem nil_notMem_packageSegments (package : String) : [] ∉ packageSegments package := by
  simp [packageSegments]

section
variable {package : String} {segment : List Char} (hsegment : segment ∈ packageSegments package)
include hsegment

/-- No segment of a package holds a dot. -/
theorem dot_notMem_of_mem_packageSegments : '.' ∉ segment :=
  Text.notMem_of_mem_pieces (List.mem_filter.mp hsegment).1

/-- The segments of a package without a slash hold none. -/
theorem slash_notMem_of_mem_packageSegments (h : '/' ∉ package.toList) : '/' ∉ segment :=
  fun hslash => h (Text.mem_of_mem_pieces (List.mem_filter.mp hsegment).1 hslash).1

end

/-- Without a slash in the package, the path of a unit is cut where it was joined. -/
theorem pieces_unitPath (file : String) {package : String} (h : '/' ∉ package.toList) :
    Text.pieces '/' (unitPath file package).toList =
      packageSegments package ++ [(fileWord file ++ unitSuffix).toList] := by
  rw [unitPath_eq, String.toList_ofList]
  refine Text.pieces_joined (by simp) ?_
  rw [List.forall_mem_append, List.forall_mem_singleton]
  exact ⟨fun segment hsegment => slash_notMem_of_mem_packageSegments hsegment h,
    slash_notMem_fileWord file⟩

/-- Two files share the path of their units exactly if their packages share a directory and their
names a word. -/
theorem unitPath_eq_iff (file package file' package' : String) :
    unitPath file package = unitPath file' package' ↔
      packageDirectory package = packageDirectory package' ∧ fileWord file = fileWord file' := by
  rw [unitPath_eq, unitPath_eq, String.ofList_inj,
    Text.joined_concat_inj (nil_notMem_packageSegments package)
      (nil_notMem_packageSegments package') (slash_notMem_fileWord file)
      (slash_notMem_fileWord file'),
    packageDirectory, packageDirectory, String.ofList_inj, String.toList_inj,
    String.append_left_inj]

end Wiregen.Naming
