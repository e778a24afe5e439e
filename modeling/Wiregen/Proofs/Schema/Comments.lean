import Wiregen.Proofs.Schema.Declared
import Wiregen.Proofs.Text.Lines

/-!
# The comment at a path

A location tells something of its path if its comment is not blank: the one before the element or,
only if there is none at all, the one behind it. Of the locations that tell something of a path the
last counts (`get?_ofFile`). Of its comment the trimmed lines are left, from the first to the last
that hold something (`lines_cleanComment`).
-/

namespace Wiregen.Schema

open Text (isBlank)

/-! ## Blank comments -/

/-- Nothing is left of a comment exactly if it is blank. -/
theorem cleanComment_eq_nil_iff {cs : List Char} :
    cleanComment cs = [] ↔ ∀ c ∈ cs, isBlank c := by
  rw [cleanComment, Text.trim_eq_nil_iff]
  constructor
  · intro h c hc
    refine Decidable.byContradiction fun hblank => ?_
    obtain ⟨line, hline, hc⟩ := Text.exists_mem_lines hc hblank
    have htrimmed : c ∈ Text.trim line := Text.mem_trim hc hblank
    exact hblank (h c (Text.mem_joined (List.mem_map_of_mem hline) htrimmed))
  · intro h c hc
    rcases Text.mem_of_mem_joined hc with rfl | ⟨trimmed, htrimmed, hc⟩
    · -- The line feeds that lines are joined with are blank themselves.
      rfl
    · obtain ⟨line, hline, rfl⟩ := List.mem_map.mp htrimmed
      exact h c (Text.mem_of_mem_lines hline (Text.mem_of_mem_trim hc))

/-- Whether anything is left of a comment can be told by its characters. -/
theorem isEmpty_cleanComment (cs : List Char) : (cleanComment cs).isEmpty = cs.all isBlank := by
  rw [Bool.eq_iff_iff, List.isEmpty_iff, List.all_eq_true, cleanComment_eq_nil_iff]

/-! ## Lines of comments -/

/-- The trimmed lines of a comment, from the first to the last that hold something. -/
def keptLines (cs : List Char) : List (List Char) :=
  Text.stripped List.isEmpty ((Text.lines cs).map Text.trim)

variable {cs line : List Char}

/-- A line that is left is a line of the comment, trimmed. -/
theorem exists_of_mem_keptLines (h : line ∈ keptLines cs) :
    ∃ whole ∈ Text.lines cs, Text.trim whole = line :=
  List.mem_map.mp (Text.mem_of_mem_stripped h)

/-- Lines that are left have no white space at their ends. -/
theorem isTrimmed_of_mem_keptLines (h : line ∈ keptLines cs) : Text.IsTrimmed line := by
  obtain ⟨whole, -, rfl⟩ := exists_of_mem_keptLines h
  exact Text.isTrimmed_trim whole

/-- Lines that are left have no line feeds in them. -/
theorem feed_notMem_of_mem_keptLines (h : line ∈ keptLines cs) : '\n' ∉ line := by
  obtain ⟨whole, hwhole, rfl⟩ := exists_of_mem_keptLines h
  exact fun hfeed => Text.feed_notMem_of_mem_lines hwhole (Text.mem_of_mem_trim hfeed)

/-- Trimming a comment whole takes empty lines at its ends away, and nothing else. -/
theorem cleanComment_eq (cs : List Char) : cleanComment cs = Text.joined '\n' (keptLines cs) := by
  refine Text.trim_joined fun text htext => ?_
  obtain ⟨whole, -, rfl⟩ := List.mem_map.mp htext
  exact Text.isTrimmed_trim whole

/-- What is left of a comment has the lines that are left. -/
theorem lines_cleanComment (cs : List Char) : Text.lines (cleanComment cs) = keptLines cs := by
  rw [cleanComment_eq]
  exact Text.lines_joined (fun _ => isTrimmed_of_mem_keptLines)
    (fun _ => feed_notMem_of_mem_keptLines) (Text.getLast?_stripped _ _)

/-- The first and the last of the lines that are left hold something. -/
theorem not_blank_of_end
    (h : (keptLines cs).head? = some line ∨ (keptLines cs).getLast? = some line) :
    ¬ line.all isBlank := by
  have hmem : line ∈ keptLines cs := h.elim List.mem_of_head? List.mem_of_getLast?
  have hne : line ≠ [] := by
    rcases h with h | h
    · have hfirst := Text.head?_stripped List.isEmpty ((Text.lines cs).map Text.trim)
      rw [← keptLines, h] at hfirst
      simpa using hfirst
    · have hlast := Text.getLast?_stripped List.isEmpty ((Text.lines cs).map Text.trim)
      rw [← keptLines, h] at hlast
      simpa using hlast
  rw [List.all_eq_true, ← (isTrimmed_of_mem_keptLines hmem).eq_nil_iff]
  exact hne

/-- The lines that go from the ends of a comment are empty once they are trimmed. -/
theorem exists_eq_keptLines (cs : List Char) :
    ∃ before behind, (Text.lines cs).map Text.trim = before ++ keptLines cs ++ behind ∧
      ∀ line ∈ before ++ behind, line = [] := by
  obtain ⟨before, behind, hlines, hbefore, hbehind⟩ :=
    Text.exists_eq_stripped List.isEmpty ((Text.lines cs).map Text.trim)
  refine ⟨before, behind, hlines, ?_⟩
  rw [List.forall_mem_append]
  exact ⟨fun line hline => List.isEmpty_iff.mp (hbefore line hline),
    fun line hline => List.isEmpty_iff.mp (hbehind line hline)⟩

/-- What is left of a comment is left of it again. -/
theorem cleanComment_cleanComment (cs : List Char) :
    cleanComment (cleanComment cs) = cleanComment cs := by
  rw [cleanComment, lines_cleanComment, Text.map_trim_eq fun _ => isTrimmed_of_mem_keptLines,
    ← cleanComment_eq, cleanComment, Text.trim_trim]

/-! ## Locations -/

/-- The comment of a location: the one before the element or, if there is none, the one behind it.
It is empty if there is neither. -/
def commentText (location : Descriptor.Location) : List Char :=
  match location.leading with
  | some text => text.toList
  | none => (location.trailing.getD "").toList

/-- Whether a location has a path and a comment that is not blank. -/
def tellsOf (path : List Int32) (location : Descriptor.Location) : Bool :=
  location.path = path && !(commentText location).all isBlank

/-- A location has its comment at its path, unless the comment is blank or the path is empty. -/
theorem locationEntry_eq (location : Descriptor.Location) :
    Comments.entry? location =
      if (commentText location).all isBlank || location.path.isEmpty then none
      else some (location.path, String.ofList (cleanComment (commentText location))) := by
  obtain ⟨path, leading, trailing⟩ := location
  cases leading with
  | some text =>
    rw [← isEmpty_cleanComment]
    rfl
  | none =>
    cases trailing with
    | some text =>
      rw [← isEmpty_cleanComment]
      rfl
    | none => rfl

/-- A location that tells something of a path is one that has a comment there. -/
theorem locationEntry_at {path : List Int32} (hpath : path ≠ []) (location : Descriptor.Location) :
    ((Comments.entry? location).bind fun p => if path == p.1 then some p.2 else none) =
      (Option.guard (tellsOf path) location).map fun l =>
        String.ofList (cleanComment (commentText l)) := by
  rw [locationEntry_eq]
  unfold tellsOf Option.guard
  by_cases hblank : (commentText location).all isBlank = true
  · simp [hblank]
  · by_cases hat : location.path = path
    · simp [hblank, hat, hpath]
    · simp [hblank, hat, Ne.symm hat]

/-- The comment at a path is that of the last location that tells something of it, trimmed. -/
theorem get?_ofFile (file : Descriptor.File) {path : List Int32} (hpath : path ≠ []) :
    (Comments.ofFile file).get? path =
      ((file.info.getD []).filter (tellsOf path)).getLast?.map fun l =>
        String.ofList (cleanComment (commentText l)) := by
  rw [Comments.get?, lookup_reverse, Comments.ofFile, List.filterMap_filterMap,
    funext (locationEntry_at hpath), ← List.map_filterMap, List.filterMap_eq_filter,
    List.getLast?_map]

end Wiregen.Schema
