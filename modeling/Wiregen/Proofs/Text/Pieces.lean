import Wiregen.Text.Pieces

/-!
# Pieces and their separator

No piece holds the separator, and texts that do not hold it are the pieces of what they are joined
to (`pieces_joined`). So a joined text tells its last piece from those before (`joined_concat_inj`).
-/

namespace Wiregen.Text

variable {sep : Char} {cs piece : List Char}

/-! ## Cutting -/

/-- An empty text is one empty piece. -/
theorem pieces_nil (sep : Char) : pieces sep [] = [[]] := rfl

/-- A separator in front has an empty piece before it. -/
theorem pieces_cons_self (sep : Char) (cs : List Char) :
    pieces sep (sep :: cs) = [] :: pieces sep cs := by
  simp [pieces, cutFirst]

/-- Any other character in front belongs to the first piece. -/
theorem pieces_cons_of_ne {c : Char} (h : c ≠ sep) (cs : List Char) :
    ∃ first others, pieces sep cs = first :: others ∧
      pieces sep (c :: cs) = (c :: first) :: others :=
  ⟨_, _, rfl, by simp [pieces, cutFirst, h]⟩

/-- The pieces on the two sides of a separator. -/
theorem pieces_append_cons (sep : Char) (front back : List Char) :
    pieces sep (front ++ sep :: back) = pieces sep front ++ pieces sep back := by
  induction front with
  | nil => exact pieces_cons_self sep back
  | cons c front ih =>
    rw [List.cons_append]
    by_cases h : c = sep
    · subst h
      rw [pieces_cons_self, pieces_cons_self, ih, List.cons_append]
    · obtain ⟨first, others, hfront, hcons⟩ := pieces_cons_of_ne h front
      obtain ⟨first', others', hall, hcons'⟩ := pieces_cons_of_ne h (front ++ sep :: back)
      rw [ih, hfront, List.cons_append] at hall
      obtain ⟨rfl, rfl⟩ := List.cons.inj hall
      rw [hcons, hcons', List.cons_append]

/-- A text without the separator is one piece. -/
theorem pieces_of_notMem (h : sep ∉ cs) : pieces sep cs = [cs] := by
  induction cs with
  | nil => rfl
  | cons c cs ih =>
    rw [List.mem_cons, not_or] at h
    obtain ⟨first, others, hcs, hcons⟩ := pieces_cons_of_ne (Ne.symm h.1) cs
    rw [ih h.2] at hcs
    obtain ⟨rfl, rfl⟩ := List.cons.inj hcs
    exact hcons

/-- Pieces hold the characters of the text, but for the separator. -/
theorem mem_of_mem_pieces {c : Char} (hpiece : piece ∈ pieces sep cs) (hc : c ∈ piece) :
    c ∈ cs ∧ c ≠ sep := by
  induction cs generalizing piece with
  | nil =>
    rw [pieces_nil, List.mem_singleton] at hpiece
    simp [hpiece] at hc
  | cons d cs ih =>
    by_cases h : d = sep
    · subst h
      rw [pieces_cons_self, List.mem_cons] at hpiece
      rcases hpiece with rfl | hpiece
      · cases hc
      · exact (ih hpiece hc).imp_left (List.mem_cons_of_mem _)
    · obtain ⟨first, others, hcs, hcons⟩ := pieces_cons_of_ne h cs
      rw [hcons, List.mem_cons] at hpiece
      rw [hcs] at ih
      rcases hpiece with rfl | hpiece
      · rcases List.mem_cons.mp hc with rfl | hc
        · exact ⟨List.mem_cons_self, h⟩
        · exact (ih List.mem_cons_self hc).imp_left (List.mem_cons_of_mem _)
      · exact (ih (List.mem_cons_of_mem _ hpiece) hc).imp_left (List.mem_cons_of_mem _)

/-- No piece holds the separator. -/
theorem notMem_of_mem_pieces (h : piece ∈ pieces sep cs) : sep ∉ piece :=
  fun hsep => (mem_of_mem_pieces h hsep).2 rfl

/-- Pieces that nothing is made of can be left out. -/
theorem flatMap_filter {α β : Type} {p : α → Bool} {part : α → List β} {as : List α}
    (h : ∀ a ∈ as, ¬ p a → part a = []) : (as.filter p).flatMap part = as.flatMap part := by
  induction as with
  | nil => rfl
  | cons a as ih =>
    obtain ⟨ha, has⟩ := List.forall_mem_cons.mp h
    by_cases hp : p a
    · rw [List.filter_cons_of_pos hp, List.flatMap_cons, List.flatMap_cons, ih has]
    · rw [List.filter_cons_of_neg hp, List.flatMap_cons, ha hp, List.nil_append, ih has]

/-! ## Joining -/

/-- A last text comes behind the others and a separator. -/
theorem joined_concat {front : List (List Char)} (h : front ≠ []) (sep : Char)
    (last : List Char) :
    joined sep (front ++ [last]) = joined sep front ++ sep :: last := by
  induction front with
  | nil => exact absurd rfl h
  | cons piece front ih =>
    cases front with
    | nil => rfl
    | cons next front =>
      simp only [List.cons_append, joined] at ih ⊢
      rw [ih (List.cons_ne_nil _ _), List.append_assoc, List.cons_append]

/-- Texts without the separator are the pieces of the joined text. -/
theorem pieces_joined {texts : List (List Char)} (hne : texts ≠ [])
    (h : ∀ text ∈ texts, sep ∉ text) : pieces sep (joined sep texts) = texts := by
  induction texts with
  | nil => exact absurd rfl hne
  | cons text texts ih =>
    obtain ⟨htext, htexts⟩ := List.forall_mem_cons.mp h
    cases texts with
    | nil => exact pieces_of_notMem htext
    | cons next texts =>
      rw [joined, pieces_append_cons, pieces_of_notMem htext, ih (List.cons_ne_nil _ _) htexts,
        List.singleton_append]

/-- Texts that hold something are joined to nothing only if there are none. -/
theorem joined_eq_nil_iff {texts : List (List Char)} (h : [] ∉ texts) :
    joined sep texts = [] ↔ texts = [] := by
  cases texts with
  | nil => simp [joined]
  | cons text texts =>
    rw [List.mem_cons, not_or] at h
    cases texts with
    | nil => simp [joined, Ne.symm h.1]
    | cons next texts => simp [joined]

/-! ## The last piece -/

/-- The last piece has no separator in it. -/
theorem notMem_lastPiece (sep : Char) (cs : List Char) : sep ∉ lastPiece sep cs := by
  intro h
  have hne := List.all_eq_true.mp (List.all_takeWhile (p := (· ≠ sep)) (l := cs.reverse)) sep
    (List.mem_reverse.mp h)
  simp at hne

/-- From the end, a part without the separator is passed over before what stands in front of it. -/
theorem takeWhile_reverse_append {back : List Char} (h : sep ∉ back) (cs : List Char) :
    (back.reverse ++ cs).takeWhile (· ≠ sep) = back.reverse ++ cs.takeWhile (· ≠ sep) := by
  refine List.takeWhile_append_of_pos fun c hc => ?_
  rw [decide_eq_true_eq]
  rintro rfl
  exact h (List.mem_reverse.mp hc)

/-- The last piece of a text stands behind its last separator. -/
theorem lastPiece_append {back : List Char} (h : sep ∉ back) (front : List Char) :
    lastPiece sep (front ++ sep :: back) = back := by
  rw [lastPiece, List.reverse_append, List.reverse_cons, List.append_assoc,
    takeWhile_reverse_append h]
  simp

/-- A text without the separator is its own last piece. -/
theorem lastPiece_of_notMem (h : sep ∉ cs) : lastPiece sep cs = cs := by
  rw [lastPiece, ← List.append_nil cs.reverse, takeWhile_reverse_append h]
  simp

/-- The last of joined texts is the last piece, if it has no separator in it. -/
theorem lastPiece_joined_concat {last : List Char} (h : sep ∉ last) (front : List (List Char)) :
    lastPiece sep (joined sep (front ++ [last])) = last := by
  cases front with
  | nil => exact lastPiece_of_notMem h
  | cons text front =>
    rw [joined_concat (List.cons_ne_nil _ _)]
    exact lastPiece_append h _

/-- Joined texts are the same if what is joined before the last ones is, and the last ones are. -/
theorem joined_concat_inj {front front' : List (List Char)} {last last' : List Char}
    (hfront : [] ∉ front) (hfront' : [] ∉ front') (hlast : sep ∉ last) (hlast' : sep ∉ last') :
    joined sep (front ++ [last]) = joined sep (front' ++ [last']) ↔
      joined sep front = joined sep front' ∧ last = last' := by
  constructor
  · intro h
    obtain rfl : last = last' := by
      rw [← lastPiece_joined_concat hlast front, h, lastPiece_joined_concat hlast']
    refine ⟨?_, rfl⟩
    by_cases hnil : front = [] <;> by_cases hnil' : front' = []
    · rw [hnil, hnil']
    · rw [hnil, joined_concat hnil', List.nil_append, joined] at h
      rw [h] at hlast
      simp at hlast
    · rw [hnil', joined_concat hnil, List.nil_append, joined] at h
      rw [← h] at hlast
      simp at hlast
    · rw [joined_concat hnil, joined_concat hnil'] at h
      exact List.append_cancel_right h
  · rintro ⟨h, rfl⟩
    by_cases hnil : front = []
    · obtain rfl : front' = [] := (joined_eq_nil_iff hfront').mp (by rw [← h, hnil, joined])
      rw [hnil]
    · have hnil' : front' ≠ [] := fun hnil' =>
        hnil ((joined_eq_nil_iff hfront).mp (by rw [h, hnil', joined]))
      rw [joined_concat hnil, joined_concat hnil', h]

end Wiregen.Text
