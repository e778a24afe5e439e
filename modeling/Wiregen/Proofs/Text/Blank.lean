import Mathlib.Data.List.DropRight
import Wiregen.Proofs.Text.Pieces

/-!
# Blank texts

What is left of a text when white space goes at its ends, and what of it stands in its lines: every
character that is not white space.
-/

namespace Wiregen.Text

/-! ## Lists without what they start and end with -/

section
variable {α : Type} {p : α → Bool} {as : List α} {a : α}

/-- The list from the first to the last of its elements that fail the test. -/
def stripped (p : α → Bool) (as : List α) : List α := (as.dropWhile p).rdropWhile p

/-- A list is what is left of it, between elements that pass the test. -/
theorem exists_eq_stripped (p : α → Bool) (as : List α) :
    ∃ before behind, as = before ++ stripped p as ++ behind ∧
      (∀ a ∈ before, p a) ∧ ∀ a ∈ behind, p a := by
  refine ⟨as.takeWhile p, (as.dropWhile p).rtakeWhile p, ?_, fun a ha => List.mem_takeWhile_imp ha,
    fun a ha => List.mem_rtakeWhile_imp ha⟩
  rw [List.append_assoc, stripped, List.rdropWhile_append_rtakeWhile,
    List.takeWhile_append_dropWhile]

/-- What is left of a list is of the list. -/
theorem mem_of_mem_stripped (h : a ∈ stripped p as) : a ∈ as := by
  obtain ⟨before, behind, has, -⟩ := exists_eq_stripped p as
  rw [has]
  exact List.mem_append_left _ (List.mem_append_right _ h)

/-- An element that fails the test is left. -/
theorem mem_stripped (ha : a ∈ as) (h : ¬ p a) : a ∈ stripped p as := by
  obtain ⟨before, behind, has, hbefore, hbehind⟩ := exists_eq_stripped p as
  rw [has, List.mem_append, List.mem_append] at ha
  rcases ha with (ha | ha) | ha
  · exact absurd (hbefore a ha) h
  · exact ha
  · exact absurd (hbehind a ha) h

/-- What is left starts with an element that fails the test, if with any. -/
theorem head?_stripped (p : α → Bool) (as : List α) : (stripped p as).head?.all (!p ·) := by
  rw [Option.all_eq_true]
  intro a ha
  obtain ⟨others, hothers⟩ := List.head?_eq_some_iff.mp ha
  obtain ⟨behind, hfront⟩ := List.rdropWhile_prefix p (as.dropWhile p)
  have hhead := List.head?_dropWhile_not p as
  rw [← hfront, ← stripped, hothers, List.cons_append, List.head?_cons] at hhead
  simpa using hhead

/-- What is left ends with an element that fails the test, if with any. -/
theorem getLast?_stripped (p : α → Bool) (as : List α) : (stripped p as).getLast?.all (!p ·) := by
  rw [Option.all_eq_true]
  intro a ha
  have hne : stripped p as ≠ [] := by
    intro hnil
    rw [hnil] at ha
    cases ha
  have hlast : ¬ p ((stripped p as).getLast hne) :=
    List.rdropWhile_last_not p (as.dropWhile p) hne
  rw [List.getLast?_eq_some_getLast hne] at ha
  rw [← Option.some_inj.mp ha]
  simpa using hlast

end

variable {cs : List Char} {c : Char}

/-! ## Trimming -/

/-- What is left of a text is of the text. -/
theorem mem_of_mem_trim (h : c ∈ trim cs) : c ∈ cs := mem_of_mem_stripped h

/-- A character that is not white space is left. -/
theorem mem_trim (hc : c ∈ cs) (h : ¬ isBlank c) : c ∈ trim cs := mem_stripped hc h

/-- Nothing is left of a text exactly if it is blank. -/
theorem trim_eq_nil_iff : trim cs = [] ↔ ∀ c ∈ cs, isBlank c := by
  constructor
  · intro hnil c hc
    refine Decidable.byContradiction fun h => ?_
    have hmem := mem_trim hc h
    rw [hnil] at hmem
    cases hmem
  · intro h
    rw [trim, List.dropWhile_eq_nil_iff.mpr h]
    rfl

/-! ## White space at the ends -/

/-- Texts without white space at their ends. -/
def IsTrimmed (cs : List Char) : Prop := cs.head?.all (!isBlank ·) ∧ cs.getLast?.all (!isBlank ·)

instance : DecidablePred IsTrimmed := fun _ => inferInstanceAs (Decidable (_ ∧ _))

/-- Nothing goes in front where the first character stays. -/
theorem dropWhile_of_head? {p : Char → Bool} (h : cs.head?.all (!p ·)) : cs.dropWhile p = cs := by
  cases cs with
  | nil => rfl
  | cons c cs => exact List.dropWhile_cons_of_neg (by simpa using h)

/-- Nothing goes from a trimmed text. -/
theorem IsTrimmed.trim_eq (h : IsTrimmed cs) : trim cs = cs := by
  have hback : cs.reverse.head?.all (!isBlank ·) := by
    rw [List.head?_reverse]
    exact h.2
  rw [trim, dropEnd, dropWhile_of_head? h.1, dropWhile_of_head? hback, List.reverse_reverse]

section
variable {blanks : List Char} (hblanks : ∀ c ∈ blanks, isBlank c)
include hblanks

/-- White space in front of a text goes. -/
theorem trim_blank_append (cs : List Char) : trim (blanks ++ cs) = trim cs := by
  rw [trim, List.dropWhile_append_of_pos hblanks, trim]

/-- White space behind a text goes at its end. -/
theorem dropEnd_append_blank (cs : List Char) :
    dropEnd isBlank (cs ++ blanks) = dropEnd isBlank cs := by
  have hreverse : ∀ c ∈ blanks.reverse, isBlank c := fun c hc =>
    hblanks c (List.mem_reverse.mp hc)
  rw [dropEnd, List.reverse_append, List.dropWhile_append_of_pos hreverse, dropEnd]

/-- White space behind a text goes. -/
theorem trim_append_blank (cs : List Char) : trim (cs ++ blanks) = trim cs := by
  rw [trim, List.dropWhile_append]
  split
  next hempty =>
    rw [List.dropWhile_eq_nil_iff.mpr hblanks, trim, List.isEmpty_iff.mp hempty]
  next => exact dropEnd_append_blank hblanks _

end

/-- A text is what is left of it, with white space on its two sides. -/
theorem exists_eq_trim (cs : List Char) :
    ∃ before behind, cs = before ++ trim cs ++ behind ∧
      (∀ c ∈ before, isBlank c) ∧ ∀ c ∈ behind, isBlank c :=
  exists_eq_stripped isBlank cs

/-- What is left of a text is trimmed. -/
theorem isTrimmed_trim (cs : List Char) : IsTrimmed (trim cs) :=
  ⟨head?_stripped isBlank cs, getLast?_stripped isBlank cs⟩

/-! ## Lines -/

/-- The characters of the texts are in what these are joined to. -/
theorem mem_joined {sep : Char} {texts : List (List Char)} {text : List Char} (htext : text ∈ texts)
    (hc : c ∈ text) : c ∈ joined sep texts := by
  induction texts with
  | nil => cases htext
  | cons first others ih =>
    cases others with
    | nil =>
      obtain rfl := List.mem_singleton.mp htext
      exact hc
    | cons next others =>
      rw [joined, List.mem_append, List.mem_cons]
      rcases List.mem_cons.mp htext with rfl | htext
      · exact .inl hc
      · exact .inr (.inr (ih htext))

/-- Joining adds nothing but separators. -/
theorem mem_of_mem_joined {sep : Char} {texts : List (List Char)} (h : c ∈ joined sep texts) :
    c = sep ∨ ∃ text ∈ texts, c ∈ text := by
  induction texts with
  | nil => cases h
  | cons first others ih =>
    cases others with
    | nil => exact .inr ⟨first, List.mem_cons_self, h⟩
    | cons next others =>
      rw [joined, List.mem_append, List.mem_cons] at h
      rcases h with h | rfl | h
      · exact .inr ⟨first, List.mem_cons_self, h⟩
      · exact .inl rfl
      · rcases ih h with rfl | ⟨text, htext, hc⟩
        · exact .inl rfl
        · exact .inr ⟨text, List.mem_cons_of_mem _ htext, hc⟩

/-- A text without its carriage return has the characters of the text. -/
theorem mem_of_mem_dropReturn (h : c ∈ dropReturn cs) : c ∈ cs := by
  unfold dropReturn at h
  split at h
  next => exact (List.dropLast_sublist cs).mem h
  next => exact h

/-- Nothing but a carriage return goes. -/
theorem mem_dropReturn (hc : c ∈ cs) (h : c ≠ '\r') : c ∈ dropReturn cs := by
  unfold dropReturn
  split
  next hlast =>
    obtain ⟨front, rfl⟩ := List.getLast?_eq_some_iff.mp hlast
    rw [List.mem_append, List.mem_singleton] at hc
    rw [List.dropLast_concat]
    exact hc.resolve_right h
  next => exact hc

/-- The characters of lines are in the pieces that the lines are made of. -/
theorem mem_of_mem_closeLines {line : List Char} (hc : c ∈ line) :
    ∀ {pieces : List (List Char)}, line ∈ closeLines pieces → ∃ piece ∈ pieces, c ∈ piece
  | [], h => nomatch h
  | [last], h => by
    unfold closeLines at h
    split at h
    next => cases h
    next => exact ⟨line, h, hc⟩
  | piece :: next :: others, h => by
    rcases List.mem_cons.mp h with rfl | h
    · exact ⟨piece, List.mem_cons_self, mem_of_mem_dropReturn hc⟩
    · obtain ⟨piece', hpiece', hc'⟩ := mem_of_mem_closeLines hc h
      exact ⟨piece', List.mem_cons_of_mem _ hpiece', hc'⟩

/-- The characters of pieces are in the lines, but for carriage returns. -/
theorem mem_closeLines {piece : List Char} (hc : c ∈ piece) (h : c ≠ '\r') :
    ∀ {pieces : List (List Char)}, piece ∈ pieces → ∃ line ∈ closeLines pieces, c ∈ line
  | [], hpiece => nomatch hpiece
  | [last], hpiece => by
    obtain rfl := List.mem_singleton.mp hpiece
    have hne : piece.isEmpty ≠ true := by
      rw [Ne, List.isEmpty_iff]
      exact List.ne_nil_of_mem hc
    refine ⟨piece, ?_, hc⟩
    rw [closeLines, if_neg hne]
    exact List.mem_cons_self
  | first :: next :: others, hpiece => by
    rcases List.mem_cons.mp hpiece with rfl | hpiece
    · exact ⟨dropReturn piece, List.mem_cons_self, mem_dropReturn hc h⟩
    · obtain ⟨line, hline, hc'⟩ := mem_closeLines hc h hpiece
      exact ⟨line, List.mem_cons_of_mem _ hline, hc'⟩

/-- The lines of a text hold no other characters than the text. -/
theorem mem_of_mem_lines {line : List Char} (hline : line ∈ lines cs) (hc : c ∈ line) : c ∈ cs := by
  obtain ⟨piece, hpiece, hc⟩ := mem_of_mem_closeLines hc hline
  exact (mem_of_mem_pieces hpiece hc).1

/-- Every character of a text that is not white space stands in one of its lines. -/
theorem exists_mem_lines (hc : c ∈ cs) (h : ¬ isBlank c) : ∃ line ∈ lines cs, c ∈ line := by
  -- What is lost in cutting is blank: line feeds and the carriage returns before them.
  have hfeed : c ≠ '\n' := by
    rintro rfl
    exact h rfl
  have hreturn : c ≠ '\r' := by
    rintro rfl
    exact h rfl
  rw [← joined_pieces '\n' cs] at hc
  rcases mem_of_mem_joined hc with rfl | ⟨piece, hpiece, hc⟩
  · exact absurd rfl hfeed
  · exact mem_closeLines hc hreturn hpiece

end Wiregen.Text
