import Wiregen.Proofs.Text.Blank

/-!
# Trimmed lines

Trimmed texts, of which the last is not empty, are the lines of what they are joined to
(`lines_joined`). When a text of trimmed lines is trimmed itself, its empty lines at the two ends go
and nothing else does (`trim_joined`).
-/

namespace Wiregen.Text

variable {cs : List Char} {texts : List (List Char)}

/-! ## Trimmed texts -/

/-- A trimmed text is blank only if it is empty. -/
theorem IsTrimmed.eq_nil_iff (h : IsTrimmed cs) : cs = [] ↔ ∀ c ∈ cs, isBlank c := by
  rw [← trim_eq_nil_iff, h.trim_eq]

/-- A text that is trimmed twice is as it is when trimmed once. -/
theorem trim_trim (cs : List Char) : trim (trim cs) = trim cs := (isTrimmed_trim cs).trim_eq

/-- Behind a trimmed text no carriage return goes. -/
theorem IsTrimmed.dropReturn_eq (h : IsTrimmed cs) : dropReturn cs = cs := by
  refine if_neg fun hreturn => ?_
  have hlast := h.2
  rw [hreturn] at hlast
  cases hlast

/-- Trimmed texts stay as they are when each is trimmed. -/
theorem map_trim_eq (h : ∀ text ∈ texts, IsTrimmed text) : texts.map trim = texts := by
  rw [List.map_congr_left fun text htext => (h text htext).trim_eq, List.map_id']

/-! ## The lines of joined texts -/

/-- No line holds a line feed. -/
theorem feed_notMem_of_mem_lines {line : List Char} (h : line ∈ lines cs) : '\n' ∉ line := by
  intro hfeed
  obtain ⟨piece, hpiece, hfeed⟩ := mem_of_mem_closeLines hfeed h
  exact notMem_of_mem_pieces hpiece hfeed

/-- Trimmed texts are lines as they are, unless the last is empty. -/
theorem closeLines_eq : ∀ {texts : List (List Char)}, (∀ text ∈ texts, IsTrimmed text) →
    texts.getLast?.all (!·.isEmpty) → closeLines texts = texts
  | [], _, _ => rfl
  | [last], _, hlast => if_neg (by simpa using hlast)
  | text :: next :: others, h, hlast => by
    obtain ⟨htext, hothers⟩ := List.forall_mem_cons.mp h
    rw [List.getLast?_cons_cons] at hlast
    rw [closeLines, htext.dropReturn_eq, closeLines_eq hothers hlast]

/-- Trimmed texts are the lines of what they are joined to, unless the last is empty. -/
theorem lines_joined (h : ∀ text ∈ texts, IsTrimmed text) (hfeed : ∀ text ∈ texts, '\n' ∉ text)
    (hlast : texts.getLast?.all (!·.isEmpty)) : lines (joined '\n' texts) = texts := by
  by_cases hne : texts = []
  · rw [hne]
    rfl
  · rw [lines, pieces_joined hne hfeed, closeLines_eq h hlast]

/-! ## Trimming joined texts -/

/-- Joined texts start as the first does, if that holds something. -/
theorem head?_joined {sep : Char} {first : List Char} (h : first ≠ [])
    (others : List (List Char)) : (joined sep (first :: others)).head? = first.head? := by
  cases others with
  | nil => rfl
  | cons next others => exact List.head?_append_of_ne_nil first h

/-- Joined texts end as the last does, if that holds something. -/
theorem getLast?_joined {sep : Char} {last : List Char} (h : last ≠ [])
    (front : List (List Char)) : (joined sep (front ++ [last])).getLast? = last.getLast? := by
  by_cases hfront : front = []
  · rw [hfront]
    rfl
  · rw [joined_concat hfront, List.getLast?_append_cons, ← List.singleton_append,
      List.getLast?_append_of_ne_nil _ h]

/-- Where the first text and the last one hold something, nothing goes when trimmed texts are
trimmed together. -/
theorem isTrimmed_joined {sep : Char} (h : ∀ text ∈ texts, IsTrimmed text)
    (hfirst : texts.head?.all (!·.isEmpty)) (hlast : texts.getLast?.all (!·.isEmpty)) :
    IsTrimmed (joined sep texts) := by
  constructor
  · cases texts with
    | nil => rfl
    | cons first others =>
      have hne : first ≠ [] := by simpa using hfirst
      rw [head?_joined hne]
      exact (h first List.mem_cons_self).1
  · rcases List.eq_nil_or_concat texts with rfl | ⟨front, last, rfl⟩
    · rfl
    · rw [List.concat_eq_append] at h hlast ⊢
      have hne : last ≠ [] := by simpa using hlast
      rw [getLast?_joined hne]
      exact (h last List.mem_concat_self).2

/-- A line feed is white space. -/
theorem isBlank_feed : ∀ c ∈ ['\n'], isBlank c := List.forall_mem_singleton.mpr rfl

/-- Line feeds are white space, so empty texts in front go when the whole is trimmed. -/
theorem trim_joined_append_left {empties : List (List Char)} (h : ∀ text ∈ empties, text = [])
    (texts : List (List Char)) :
    trim (joined '\n' (empties ++ texts)) = trim (joined '\n' texts) := by
  induction empties with
  | nil => rfl
  | cons text empties ih =>
    obtain ⟨rfl, hempties⟩ := List.forall_mem_cons.mp h
    rw [← ih hempties, List.cons_append]
    cases empties ++ texts with
    | nil => rfl
    | cons next others => exact trim_blank_append isBlank_feed _

/-- Empty texts behind go, too. -/
theorem trim_joined_append_right {empties : List (List Char)} (h : ∀ text ∈ empties, text = []) :
    ∀ texts : List (List Char),
      trim (joined '\n' (texts ++ empties)) = trim (joined '\n' texts) := by
  induction empties with
  | nil => exact fun texts => by rw [List.append_nil]
  | cons text empties ih =>
    obtain ⟨rfl, hempties⟩ := List.forall_mem_cons.mp h
    intro texts
    rw [← List.singleton_append, ← List.append_assoc, ih hempties]
    by_cases hne : texts = []
    · rw [hne]
      rfl
    · rw [joined_concat hne]
      exact trim_append_blank isBlank_feed _

/-- Trimmed texts that are trimmed together lose the empty ones at the two ends. -/
theorem trim_joined (h : ∀ text ∈ texts, IsTrimmed text) :
    trim (joined '\n' texts) = joined '\n' (stripped List.isEmpty texts) := by
  obtain ⟨before, behind, htexts, hbefore, hbehind⟩ := exists_eq_stripped List.isEmpty texts
  have hkept : IsTrimmed (joined '\n' (stripped List.isEmpty texts)) :=
    isTrimmed_joined (fun text htext => h text (mem_of_mem_stripped htext))
      (head?_stripped _ _) (getLast?_stripped _ _)
  calc trim (joined '\n' texts)
      = trim (joined '\n' (before ++ stripped List.isEmpty texts ++ behind)) := by rw [← htexts]
    _ = trim (joined '\n' (before ++ stripped List.isEmpty texts)) :=
      trim_joined_append_right (fun text htext => List.isEmpty_iff.mp (hbehind text htext)) _
    _ = trim (joined '\n' (stripped List.isEmpty texts)) :=
      trim_joined_append_left (fun text htext => List.isEmpty_iff.mp (hbefore text htext)) _
    _ = joined '\n' (stripped List.isEmpty texts) := hkept.trim_eq

end Wiregen.Text
