import Wiregen.Proofs.Text.Identifier
import Wiregen.Target.Identifier

/-!
# Identifiers of names

A name is first spelled so that it can be an identifier, and then marked as raw if it is a keyword
(`Ident.ofName?_eq`). So a name has an identifier exactly if it can be spelled as one
(`Ident.ofName?_isSome_iff`), and names share an identifier exactly if they are spelled alike
(`Ident.ofName?_eq_iff`), as `self` and `self_` are. What a name of ASCII characters becomes can be
used as a name, and is raw exactly if the name is a keyword that has a raw form
(`Ident.text_eq_raw_iff`).
-/

namespace Wiregen.Target

/-! ## Keywords -/

/-- Keywords have the characters of identifiers. -/
theorem isIdentifier_of_mem_keywords : ∀ name ∈ keywords, Text.isIdentifier name.toList := by
  decide

/-- No keyword starts with an underscore. -/
theorem head?_ne_underscore_of_mem_keywords :
    ∀ name ∈ keywords, name.toList.head? ≠ some '_' := by
  decide

/-- No keyword ends with an underscore. -/
theorem getLast?_ne_underscore_of_mem_keywords :
    ∀ name ∈ keywords, name.toList.getLast? ≠ some '_' := by
  decide

/-- Path keywords can be written with an underscore behind them. -/
theorem nameable_of_mem_pathKeywords : ∀ name ∈ pathKeywords,
    (Text.isIdentifier (name ++ "_").toList ↔ Text.IsNameable name.toList) := by
  decide

namespace Ident

/-! ## Spelling -/

/-- A name is a plain identifier as it is, or not at all. -/
theorem plain?_eq_some {name : String} {ident : Ident} :
    plain? name = some ident ↔ Text.isIdentifier name.toList ∧ .plain name = ident := by
  simp [plain?]

/-- An identifier does not start with a digit. -/
theorem not_startsWithDigit {name : String} (h : Text.isIdentifier name.toList) :
    ¬ startsWithDigit name := by
  unfold startsWithDigit
  cases hchars : name.toList with
  | nil => simp
  | cons c cs =>
    rw [hchars] at h
    simpa using Text.not_isDigit_of_start (Bool.and_eq_true_iff.mp h).1

/-- A name with what it needs to be an identifier: none, the lone underscore, names with a digit in
front and path keywords are the ones that need something. -/
def spelled (name : String) : String :=
  if name = "" ∨ name = "_" then "__"
  else if startsWithDigit name then "_" ++ name
  else if name ∈ pathKeywords then name ++ "_"
  else name

/-- The identifier of a name is the name as it is spelled, raw if that is a keyword. -/
theorem ofName?_eq (name : String) :
    ofName? name =
      if spelled name ∈ keywords then some (.raw (spelled name)) else plain? (spelled name) := by
  unfold ofName? spelled
  split
  next => rfl
  next =>
    split
    next =>
      have hnot : "_" ++ name ∉ keywords := fun h =>
        head?_ne_underscore_of_mem_keywords _ h (by simp)
      rw [if_neg hnot]
    next =>
      split
      next =>
        have hnot : name ++ "_" ∉ keywords := fun h =>
          getLast?_ne_underscore_of_mem_keywords _ h (by simp)
        rw [if_neg hnot]
      next => rfl

/-- The name that an identifier is read as. -/
def name : Ident → String
  | .plain name => name
  | .raw keyword => keyword

/-- The identifier of a name is read as the name is spelled. -/
theorem name_of_ofName? {name : String} {ident : Ident} (h : ofName? name = some ident) :
    ident.name = spelled name := by
  rw [ofName?_eq] at h
  split at h
  next =>
    cases h
    rfl
  next =>
    obtain ⟨-, rfl⟩ := plain?_eq_some.mp h
    rfl

/-- A name has an identifier exactly if its spelling is one. -/
theorem ofName?_isSome_iff_spelled (name : String) :
    (ofName? name).isSome ↔ Text.isIdentifier (spelled name).toList := by
  rw [ofName?_eq]
  split
  next h => exact iff_of_true rfl (isIdentifier_of_mem_keywords _ h)
  next => simp [plain?]

/-- A name has an identifier exactly if one can be made of its characters. -/
theorem ofName?_isSome_iff (name : String) :
    (ofName? name).isSome ↔ Text.IsNameable name.toList := by
  rw [ofName?_isSome_iff_spelled]
  unfold spelled
  split
  next h =>
    refine iff_of_true (by decide) ?_
    rcases h with rfl | rfl
    · trivial
    · decide
  next hempty =>
    obtain ⟨hempty, -⟩ := not_or.mp hempty
    obtain ⟨c, cs, hchars⟩ := List.exists_cons_of_ne_nil (mt String.toList_eq_nil_iff.mp hempty)
    split
    next hdigit =>
      have hc : c.isDigit := by simpa [startsWithDigit, hchars] using hdigit
      simp [hchars, Text.isIdentifier_underscore, Text.IsNameable, hc,
        Text.isIdentifierContinue_of_isDigit hc]
    next hdigit =>
      have hc : ¬ c.isDigit := by simpa [startsWithDigit, hchars] using hdigit
      split
      next hpath => exact nameable_of_mem_pathKeywords name hpath
      next => simp [hchars, Text.isIdentifier, Text.IsNameable, hc]

/-- Names that have identifiers share one exactly if they are spelled alike. -/
theorem ofName?_eq_iff {a b : String} {i j : Ident} (ha : ofName? a = some i)
    (hb : ofName? b = some j) : i = j ↔ spelled a = spelled b := by
  constructor
  · rintro rfl
    rw [← name_of_ofName? ha, name_of_ofName? hb]
  · intro h
    rw [ofName?_eq, h, ← ofName?_eq] at ha
    exact Option.some_inj.mp (ha.symm.trans hb)

/-- Where a name has no underscores, those of its spelling can be taken away again. -/
theorem filter_spelled {name : String} (h : '_' ∉ name.toList) :
    (spelled name).toList.filter (· ≠ '_') = name.toList := by
  have hname : name.toList.filter (· ≠ '_') = name.toList :=
    List.filter_eq_self.mpr fun c hc => decide_eq_true fun heq => h (heq ▸ hc)
  unfold spelled
  split
  next hblank =>
    rcases hblank with rfl | rfl
    · decide
    · exact absurd (by decide) h
  next =>
    split
    next =>
      rw [String.toList_append, List.filter_append, hname]
      rfl
    next =>
      split
      next =>
        rw [String.toList_append, List.filter_append, hname]
        exact List.append_nil _
      next => exact hname

/-- Names without underscores are spelled alike only if they are the same. -/
theorem spelled_inj {a b : String} (ha : '_' ∉ a.toList) (hb : '_' ∉ b.toList) :
    spelled a = spelled b ↔ a = b := by
  refine ⟨fun h => String.toList_inj.mp ?_, congrArg spelled⟩
  rw [← filter_spelled ha, h, filter_spelled hb]

/-! ## Texts -/

/-- Identifiers that can stand in a text. -/
def WellFormed : Ident → Prop
  | .plain name => Text.isIdentifier name.toList
  | .raw keyword => keyword ∈ keywords

/-- A plain identifier of a name is well formed. -/
theorem wellFormed_of_plain? {name : String} {ident : Ident} (h : plain? name = some ident) :
    ident.WellFormed := by
  obtain ⟨hname, rfl⟩ := plain?_eq_some.mp h
  exact hname

/-- The identifier of a name is well formed. -/
theorem wellFormed_of_ofName? {name : String} {ident : Ident} (h : ofName? name = some ident) :
    ident.WellFormed := by
  rw [ofName?_eq] at h
  split at h
  next hkeyword =>
    cases h
    exact hkeyword
  next => exact wellFormed_of_plain? h

/-- No identifier reads as a raw one. -/
theorem text_raw_ne {name : String} (h : Text.isIdentifier name.toList) (keyword : String) :
    name ≠ "r#" ++ keyword := by
  rintro rfl
  have hmark := Text.isIdentifierContinue_of_mem h '#' (by simp)
  revert hmark
  decide

/-- Identifiers are told apart by their texts. -/
theorem text_inj {i j : Ident} (hi : i.WellFormed) (hj : j.WellFormed) :
    i.text = j.text ↔ i = j := by
  refine ⟨fun h => ?_, congrArg text⟩
  cases i with
  | plain name =>
    cases j with
    | plain name' => exact congrArg plain h
    | raw keyword => exact absurd h (text_raw_ne hi keyword)
  | raw keyword =>
    cases j with
    | plain name => exact absurd h.symm (text_raw_ne hj keyword)
    | raw keyword' => exact congrArg raw (String.append_right_inj _ |>.mp h)

/-! ## Identifiers that can be used -/

/-- A keyword is spelled as it is if it has a raw form, and no other name is spelled as one. -/
theorem spelled_mem_keywords_iff (name : String) :
    spelled name ∈ keywords ↔ name ∈ keywords ∧ name ∉ pathKeywords := by
  unfold spelled
  split
  next hblank =>
    refine iff_of_false (by decide) ?_
    rintro ⟨hname, -⟩
    rcases hblank with rfl | rfl <;> exact absurd hname (by decide)
  next =>
    split
    next hdigit =>
      refine iff_of_false (fun h => head?_ne_underscore_of_mem_keywords _ h (by simp)) ?_
      rintro ⟨hname, -⟩
      exact not_startsWithDigit (isIdentifier_of_mem_keywords name hname) hdigit
    next =>
      split
      next hpath =>
        refine iff_of_false (fun h => getLast?_ne_underscore_of_mem_keywords _ h (by simp)) ?_
        rintro ⟨-, hname⟩
        exact hname hpath
      next hpath => exact (and_iff_left hpath).symm

/-- Keywords that have a raw form are spelled as they are. -/
theorem spelled_of_mem_keywords {name : String} (hname : name ∈ keywords)
    (hpath : name ∉ pathKeywords) : spelled name = name := by
  have hblank : ¬ (name = "" ∨ name = "_") := by
    rintro (rfl | rfl) <;> exact absurd hname (by decide)
  have hdigit := not_startsWithDigit (isIdentifier_of_mem_keywords name hname)
  rw [spelled, if_neg hblank, if_neg hdigit, if_neg hpath]

/-- Spelling adds nothing but underscores. -/
theorem mem_spelled {name : String} {c : Char} (h : c ∈ (spelled name).toList) :
    c = '_' ∨ c ∈ name.toList := by
  unfold spelled at h
  split at h
  next => exact .inl (by simpa using h)
  next =>
    split at h
    next => simpa using h
    next =>
      split at h
      next => simpa [or_comm] using h
      next => exact .inr h

/-- No name is spelled as the lone underscore. -/
theorem spelled_ne_underscore (name : String) : spelled name ≠ "_" := by
  unfold spelled
  split
  next => decide
  next hblank =>
    obtain ⟨hempty, hunderscore⟩ := not_or.mp hblank
    split
    next => simpa using hempty
    next =>
      split
      next => simpa using hempty
      next => exact hunderscore

/-- Identifiers that emitted code can use as names: words, but neither the lone underscore nor,
unless they are marked, keywords. -/
structure IsUsable (ident : Ident) : Prop where
  isWord : Text.isWord ident.name.toList
  ne_underscore : ident.name ≠ "_"
  text_notMem : ident.text ∉ keywords

/-- What a well-formed identifier is read as has the characters of one. -/
theorem WellFormed.isIdentifier_name {ident : Ident} (h : ident.WellFormed) :
    Text.isIdentifier ident.name.toList := by
  cases ident with
  | plain name => exact h
  | raw keyword => exact isIdentifier_of_mem_keywords keyword h

/-- No identifier of a name is a keyword that is not marked as raw. -/
theorem text_notMem_keywords {name : String} {ident : Ident} (h : ofName? name = some ident) :
    ident.text ∉ keywords := by
  rw [ofName?_eq] at h
  split at h
  next =>
    cases h
    exact fun hmem => text_raw_ne (isIdentifier_of_mem_keywords _ hmem) _ rfl
  next hplain =>
    obtain ⟨-, rfl⟩ := plain?_eq_some.mp h
    exact hplain

/-- What becomes of a name of ASCII characters can be used. -/
theorem isUsable_of_ofName? {name : String} {ident : Ident} (h : ofName? name = some ident)
    (hascii : ∀ c ∈ name.toList, c.toNat < 128) : ident.IsUsable := by
  have hname := name_of_ofName? h
  refine ⟨Text.isWord_iff.mpr ⟨(wellFormed_of_ofName? h).isIdentifier_name, ?_⟩, ?_,
    text_notMem_keywords h⟩
  · intro c hc
    rw [hname] at hc
    rcases mem_spelled hc with rfl | hc
    · decide
    · exact hascii c hc
  · rw [hname]
    exact spelled_ne_underscore name

/-- An identifier reads as a raw one exactly if its name is a keyword that has a raw form. -/
theorem text_eq_raw_iff {name : String} {ident : Ident} (h : ofName? name = some ident)
    (keyword : String) :
    ident.text = "r#" ++ keyword ↔
      keyword = name ∧ name ∈ keywords ∧ name ∉ pathKeywords := by
  rw [ofName?_eq] at h
  split at h
  next hname =>
    rw [spelled_mem_keywords_iff] at hname
    cases h
    rw [text, String.append_right_inj, spelled_of_mem_keywords hname.1 hname.2, eq_comm]
    exact (and_iff_left hname).symm
  next hname =>
    rw [spelled_mem_keywords_iff] at hname
    obtain ⟨hidentifier, rfl⟩ := plain?_eq_some.mp h
    exact iff_of_false (text_raw_ne hidentifier keyword) fun hraw => hname hraw.2

end Ident

end Wiregen.Target
