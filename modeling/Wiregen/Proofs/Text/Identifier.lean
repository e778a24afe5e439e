import Wiregen.Text.CharacterClass

/-!
# Texts that become identifiers

An identifier goes on with whatever may continue one, so a word behind it does not change whether it
is one (`isIdentifier_append`). A text can do with an underscore in front of it if it starts with a
digit, or holds nothing; `IsNameable` are the texts that become an identifier in one of these ways.
Words, the names that a schema can have, are the identifiers of ASCII characters (`isWord_iff`).
-/

namespace Wiregen.Text

/-- What may start an identifier may continue one. -/
theorem isIdentifierContinue_of_start {c : Char} (h : isIdentifierStart c) :
    isIdentifierContinue c := by
  unfold isIdentifierStart at h
  unfold isIdentifierContinue
  split at h
  next hascii =>
    rw [if_pos hascii]
    simp only [Bool.or_eq_true] at h ⊢
    exact h.imp_left fun halpha => by simp [Char.isAlphanum, halpha]
  next hascii =>
    rw [if_neg hascii, h]
    rfl

/-- The digits are ten characters in a row. -/
theorem isDigit_iff {c : Char} : c.isDigit ↔ 48 ≤ c.toNat ∧ c.toNat ≤ 57 := by
  simp [Char.isDigit, UInt32.le_iff_toNat_le]

/-- A digit may continue an identifier. -/
theorem isIdentifierContinue_of_isDigit {c : Char} (h : c.isDigit) : isIdentifierContinue c := by
  have hascii : c.toNat < 128 := Nat.lt_of_le_of_lt (isDigit_iff.mp h).2 (by decide)
  simp [isIdentifierContinue, hascii, Char.isAlphanum, h]

/-- No identifier starts with a digit, whichever it is. -/
theorem not_start_of_digit : ∀ n < 58, 48 ≤ n → isIdentifierStart (Char.ofNat n) = false := by
  decide

/-- No digit may start an identifier. -/
theorem not_isDigit_of_start {c : Char} (h : isIdentifierStart c) : ¬ c.isDigit := by
  intro hdigit
  obtain ⟨hlo, hhi⟩ := isDigit_iff.mp hdigit
  have hnot := not_start_of_digit c.toNat (Nat.lt_succ_of_le hhi) hlo
  rw [Char.ofNat_toNat, h] at hnot
  cases hnot

/-- An identifier has only characters that may continue one. -/
theorem isIdentifierContinue_of_mem {cs : List Char} (h : isIdentifier cs) :
    ∀ c ∈ cs, isIdentifierContinue c := by
  cases cs with
  | nil => cases h
  | cons c cs =>
    obtain ⟨hstart, hall⟩ := Bool.and_eq_true_iff.mp h
    intro d hd
    rcases List.mem_cons.mp hd with rfl | hd
    · exact isIdentifierContinue_of_start hstart
    · exact List.all_eq_true.mp hall d hd

/-- The texts that become an identifier: identifiers, nothing at all, and texts that are one but for
the digit they start with. -/
def IsNameable : List Char → Prop
  | [] => True
  | c :: cs => (isIdentifierStart c ∨ c.isDigit) ∧ ∀ d ∈ cs, isIdentifierContinue d

-- Characters are finitely many, so membership must not be decided by going through all of them.
instance : DecidablePred IsNameable
  | [] => inferInstanceAs (Decidable True)
  | c :: cs =>
    decidable_of_iff ((isIdentifierStart c || c.isDigit) && cs.all isIdentifierContinue)
      (by simp [IsNameable])

/-- An identifier can be made of one. -/
theorem IsNameable.of_isIdentifier {cs : List Char} (h : isIdentifier cs) : IsNameable cs := by
  cases cs with
  | nil => trivial
  | cons c cs =>
    obtain ⟨hstart, hall⟩ := Bool.and_eq_true_iff.mp h
    exact ⟨.inl hstart, List.all_eq_true.mp hall⟩

/-- Behind an underscore, a text is an identifier if all of it may continue one. -/
theorem isIdentifier_underscore {cs : List Char} :
    isIdentifier ('_' :: cs) ↔ ∀ c ∈ cs, isIdentifierContinue c := by
  have hstart : isIdentifierStart '_' = true := by decide
  simp [isIdentifier, hstart]

section
variable {word : List Char} (hword : isIdentifier word)
include hword

/-- A text with an identifier behind it is an identifier if it is one, or is empty. -/
theorem isIdentifier_append (cs : List Char) :
    isIdentifier (cs ++ word) ↔ cs = [] ∨ isIdentifier cs := by
  cases cs with
  | nil => simpa using hword
  | cons c cs =>
    have hall : word.all isIdentifierContinue :=
      List.all_eq_true.mpr (isIdentifierContinue_of_mem hword)
    simp [isIdentifier, List.all_append, hall]

/-- A text with an identifier behind it becomes an identifier if it does so itself. -/
theorem isNameable_append (cs : List Char) : IsNameable (cs ++ word) ↔ IsNameable cs := by
  cases cs with
  | nil => exact iff_of_true (.of_isIdentifier hword) trivial
  | cons c cs =>
    refine and_congr_right fun _ => ?_
    rw [List.append_eq, List.forall_mem_append]
    exact and_iff_left (isIdentifierContinue_of_mem hword)

end

/-! ## Words -/

/-- Whether a word may start with the character. -/
def isWordStart (c : Char) : Bool := c.isAlpha || c = '_'

/-- Whether a word may have the character after its first. -/
def isWordPart (c : Char) : Bool := c.isAlphanum || c = '_'

/-- Whether the characters are a word: letters, digits and underscores, all of them ASCII, and no
digit in front. -/
def isWord : List Char → Bool
  | [] => false
  | c :: cs => isWordStart c && cs.all isWordPart

/-- Letters and digits are ASCII characters. -/
theorem toNat_lt_of_isAlphanum {c : Char} (h : c.isAlphanum) : c.toNat < 128 := by
  have hbound : ∀ last : Char, last.toNat < 128 → c.val ≤ last.val → c.toNat < 128 := by
    intro last hlast hle
    exact Nat.lt_of_le_of_lt (UInt32.le_iff_toNat_le.mp hle) hlast
  rcases Bool.or_eq_true_iff.mp h with halpha | hdigit
  · rcases Bool.or_eq_true_iff.mp halpha with hupper | hlower
    · exact hbound 'Z' (by decide) (of_decide_eq_true hupper).2
    · exact hbound 'z' (by decide) (of_decide_eq_true (Bool.and_eq_true_iff.mp hlower).2)
  · exact Nat.lt_of_le_of_lt (isDigit_iff.mp hdigit).2 (by decide)

/-- What is asked of ASCII characters alone holds of ASCII characters alone, if only letters, digits
and the underscore can meet it. -/
theorem or_underscore_iff {c : Char} {letter other : Bool} (h : letter → c.isAlphanum) :
    (letter || c = '_') ↔
      (if c.toNat < 128 then letter || c = '_' else other) ∧ c.toNat < 128 := by
  constructor
  · intro hc
    have hascii : c.toNat < 128 := by
      rcases Bool.or_eq_true_iff.mp hc with hletter | hunderscore
      · exact toNat_lt_of_isAlphanum (h hletter)
      · rw [of_decide_eq_true hunderscore]
        decide
    exact ⟨by rwa [if_pos hascii], hascii⟩
  · rintro ⟨hc, hascii⟩
    rwa [if_pos hascii] at hc

/-- A word starts with an ASCII character that may start an identifier. -/
theorem isWordStart_iff {c : Char} : isWordStart c ↔ isIdentifierStart c ∧ c.toNat < 128 :=
  or_underscore_iff fun halpha => by simp [Char.isAlphanum, halpha]

/-- A word goes on with ASCII characters that may continue an identifier. -/
theorem isWordPart_iff {c : Char} : isWordPart c ↔ isIdentifierContinue c ∧ c.toNat < 128 :=
  or_underscore_iff id

/-- Words are the identifiers of ASCII characters. -/
theorem isWord_iff {cs : List Char} : isWord cs ↔ isIdentifier cs ∧ ∀ c ∈ cs, c.toNat < 128 := by
  cases cs with
  | nil => simp [isWord, isIdentifier]
  | cons c cs =>
    simp only [isWord, isIdentifier, Bool.and_eq_true, List.all_eq_true, isWordStart_iff,
      isWordPart_iff, List.forall_mem_cons, forall_and]
    exact and_and_and_comm

/-- Letters and digits become an identifier, whatever their order and however many they are. -/
theorem isNameable_of_isAlphanum {cs : List Char} (h : ∀ c ∈ cs, c.isAlphanum) :
    IsNameable cs := by
  cases cs with
  | nil => trivial
  | cons c cs =>
    obtain ⟨hc, hcs⟩ := List.forall_mem_cons.mp h
    refine ⟨?_, ?_⟩
    · rcases Bool.or_eq_true_iff.mp hc with halpha | hdigit
      · exact .inl (isWordStart_iff.mp (by simp [isWordStart, halpha])).1
      · exact .inr hdigit
    · intro d hd
      exact (isWordPart_iff.mp (by simp [isWordPart, hcs d hd])).1

end Wiregen.Text
