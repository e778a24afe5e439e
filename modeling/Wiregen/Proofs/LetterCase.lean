import Wiregen.Proofs.Naming

/-!
# Letter case

The words of a name are what stands between its underscores, however many of these there are in a
row or at the ends. They are joined with each but the first capitalized, or with all, so that the
two results differ in the first character alone (`camelCase_words`).
-/

namespace Wiregen.Naming

open Text (pieces)

/-- The words of a name: its pieces between underscores, without the empty ones. -/
def words (name : String) : List (List Char) := (pieces '_' name.toList).filter (!·.isEmpty)

/-- Words as one: the first as it is, each later one capitalized. -/
def camelJoined : List (List Char) → List Char
  | [] => []
  | first :: later => first ++ later.flatMap capitalized

/-! ## Capitalized words -/

/-- To capitalize a text is to capitalize its first word. -/
theorem capitalized_append {word : List Char} (h : word ≠ []) (cs : List Char) :
    capitalized (word ++ cs) = capitalized word ++ cs := by
  cases word with
  | nil => exact absurd rfl h
  | cons c word => exact (List.append_assoc (Text.upper c) word cs).symm

/-- What is empty stays so when it is capitalized. -/
theorem flatMap_capitalized_filter (texts : List (List Char)) :
    (texts.filter (!·.isEmpty)).flatMap capitalized = texts.flatMap capitalized := by
  refine Text.flatMap_filter fun text _ hempty => ?_
  obtain rfl : text = [] := by simpa using hempty
  rfl

/-- All words capitalized are the words joined, with the first one capitalized too. -/
theorem capitalized_camelJoined {texts : List (List Char)} (h : [] ∉ texts) :
    capitalized (camelJoined texts) = texts.flatMap capitalized := by
  cases texts with
  | nil => rfl
  | cons first later =>
    have hfirst : first ≠ [] := by
      rintro rfl
      exact h List.mem_cons_self
    exact capitalized_append hfirst _

/-! ## Words joined -/

/-- Once a character has been written, the piece up to the next underscore stays as it is, or is
capitalized where it begins a word, and all pieces behind it are capitalized. -/
theorem camelFrom_started {cs : List Char} :
    ∀ {first : List Char} {others : List (List Char)}, pieces '_' cs = first :: others →
      camelFrom true false cs = first ++ others.flatMap capitalized ∧
      camelFrom true true cs = (first :: others).flatMap capitalized := by
  induction cs with
  | nil =>
    intro first others h
    cases h
    exact ⟨rfl, rfl⟩
  | cons c cs ih =>
    intro first others h
    by_cases hc : c = '_'
    · -- An underscore leads from either state to the start of a word. The piece before it is empty.
      subst hc
      rw [Text.pieces_cons_self] at h
      obtain ⟨rfl, rfl⟩ := List.cons.inj h
      have hword : camelFrom true true cs = (pieces '_' cs).flatMap capitalized := (ih rfl).2
      exact ⟨hword, hword⟩
    · obtain ⟨front, rest, hcs, hcons⟩ := Text.pieces_cons_of_ne hc cs
      rw [hcons] at h
      obtain ⟨rfl, rfl⟩ := List.cons.inj h
      have hrest := (ih hcs).1
      constructor
      · rw [camelFrom, if_neg hc, if_neg Bool.false_ne_true, hrest, List.cons_append]
      · rw [camelFrom, if_neg hc, if_pos rfl, hrest, List.flatMap_cons, capitalized,
          List.append_assoc]

/-- Before a character is written, underscores do nothing. -/
theorem camelFrom_eq (cs : List Char) :
    camelFrom false false cs = camelJoined ((pieces '_' cs).filter (!·.isEmpty)) := by
  induction cs with
  | nil => rfl
  | cons c cs ih =>
    by_cases hc : c = '_'
    · subst hc
      rw [Text.pieces_cons_self]
      exact ih
    · obtain ⟨front, rest, hcs, hcons⟩ := Text.pieces_cons_of_ne hc cs
      rw [hcons, List.filter_cons_of_pos rfl, camelJoined, flatMap_capitalized_filter, camelFrom,
        if_neg hc, if_neg Bool.false_ne_true, (camelFrom_started hcs).1, List.cons_append]

/-- Camel case joins the words of a name, each but the first one capitalized. -/
theorem camelCase_eq (name : String) : camelCase name = String.ofList (camelJoined (words name)) :=
  congrArg String.ofList (camelFrom_eq name.toList)

/-- Pascal case joins the words of a name, each of them capitalized. -/
theorem pascalCase_eq (name : String) :
    pascalCase name = String.ofList ((words name).flatMap capitalized) := by
  rw [pascalCase, words, flatMap_capitalized_filter]

/-- No word is empty. -/
theorem nil_notMem_words (name : String) : [] ∉ words name := by
  simp [words]

/-- One text joined is itself, be it empty or not. -/
theorem camelJoined_filter_singleton (cs : List Char) :
    camelJoined ([cs].filter (!·.isEmpty)) = cs := by
  cases cs with
  | nil => rfl
  | cons c cs => simp [camelJoined]

/-- A name without underscores is its only word. -/
theorem camelCase_of_notMem {name : String} (h : '_' ∉ name.toList) : camelCase name = name := by
  rw [camelCase_eq, words, Text.pieces_of_notMem h, camelJoined_filter_singleton,
    String.ofList_toList]

/-- A name becomes its words joined, the first as it is and each later one capitalized. No
underscore is left, so that nothing changes when that is done again. With all words capitalized, it
becomes the same but for its first character, which is in upper case. -/
theorem camelCase_words (name : String) :
    camelCase name = String.ofList (camelJoined (words name)) ∧
    '_' ∉ (camelCase name).toList ∧
    camelCase (camelCase name) = camelCase name ∧
    pascalCase name = String.ofList (capitalized (camelCase name).toList) := by
  have hunderscore := underscore_notMem_camelCase name
  refine ⟨camelCase_eq name, hunderscore, camelCase_of_notMem hunderscore, ?_⟩
  rw [camelCase_eq, String.toList_ofList, capitalized_camelJoined (nil_notMem_words name),
    pascalCase_eq]

/-- Underscores in a row and at the ends count as one or none, and one letter becomes two. -/
example : camelCase "__straße_ßeta__x_" = "straßeSSetaX" ∧
    pascalCase "__straße_ßeta__x_" = "StraßeSSetaX" := by
  decide

end Wiregen.Naming
