import Wiregen.Naming
import Wiregen.Proofs.Target.Identifier
import Wiregen.Proofs.Text.Pieces
import Wiregen.Proofs.Text.Uppercase

/-!
# Names of emitted code

Which names of a schema can be those of members, types and codecs, and which of those names
coincide. A type is spelled so that it can be one, its codec is not: the names that a codec can
have, `IsTypeName`, are a part of those that a type can have.
-/

namespace Wiregen.Naming

open Target (Ident)

/-! ## Types and codecs -/

/-- What stands behind the name of a message in that of its codec. -/
def codecWord : String := "Codec"

/-- Names that both a type and its codec can have. -/
def IsTypeName (name : String) : Prop := name = "" ∨ Text.isIdentifier name.toList

instance : DecidablePred IsTypeName := fun _ => inferInstanceAs (Decidable (_ ∨ _))

/-- A message has a codec exactly if its name is that of a type. -/
theorem codecIdent?_eq_some {name : String} {codec : Ident} :
    codecIdent? name = some codec ↔ IsTypeName name ∧ .plain (name ++ codecWord) = codec := by
  have hword : Text.isIdentifier codecWord.toList := by decide
  rw [codecIdent?, Ident.plain?_eq_some, ← codecWord, String.toList_append,
    Text.isIdentifier_append hword, String.toList_eq_nil_iff, IsTypeName]

/-- A name has a codec exactly if it is that of a type. -/
theorem codecIdent?_isSome_iff {name : String} : (codecIdent? name).isSome ↔ IsTypeName name := by
  simp only [Option.isSome_iff_exists, codecIdent?_eq_some]
  exact ⟨fun ⟨_, h, _⟩ => h, fun h => ⟨_, h, rfl⟩⟩

/-- A name that a codec can have is one that a type can have. -/
theorem IsTypeName.messageIdent?_isSome {name : String} (h : IsTypeName name) :
    (messageIdent? name).isSome := by
  rw [messageIdent?, Ident.ofName?_isSome_iff]
  rcases h with rfl | h
  · trivial
  · exact .of_isIdentifier h

/-- A name is that of a type exactly if a type and a codec can be called by it. -/
theorem isTypeName_iff {name : String} :
    IsTypeName name ↔ (messageIdent? name).isSome ∧ (codecIdent? name).isSome := by
  rw [codecIdent?_isSome_iff]
  exact ⟨fun h => ⟨h.messageIdent?_isSome, h⟩, And.right⟩

/-- Codecs have distinct names where their messages do. -/
theorem codecIdent?_inj {a b : String} {codec : Ident} (ha : codecIdent? a = some codec)
    (hb : codecIdent? b = some codec) : a = b := by
  obtain ⟨-, rfl⟩ := codecIdent?_eq_some.mp ha
  obtain ⟨-, h⟩ := codecIdent?_eq_some.mp hb
  simpa using h.symm

/-- The word behind a codec's name has a capital letter that no part of a spelling has. -/
theorem mem_codec (name : String) : 'C' ∈ (name ++ codecWord).toList := by
  simp [codecWord]

/-- The keywords without a raw form have no capital C, with an underscore behind them or without. -/
theorem notMem_pathKeyword : ∀ name ∈ Target.pathKeywords,
    'C' ∉ (name ++ "_").toList ∧ 'C' ∉ name.toList := by
  decide

/-- A name that is not spelled as it is does not have that letter, spelled or not. -/
theorem IsTypeName.spelled_eq_or {name : String} (h : IsTypeName name) :
    Ident.spelled name = name ∨ 'C' ∉ (Ident.spelled name).toList ∧ 'C' ∉ name.toList := by
  unfold Ident.spelled
  split
  next hblank =>
    refine .inr ⟨by simp, ?_⟩
    rcases hblank with rfl | rfl <;> simp
  next hblank =>
    have hidentifier := h.resolve_left fun hempty => hblank (.inl hempty)
    rw [if_neg (Ident.not_startsWithDigit hidentifier)]
    split
    next hpath => exact .inr (notMem_pathKeyword name hpath)
    next => exact .inl rfl

/-- A type is spelled like a codec only if its message has the codec's name already. -/
theorem spelled_eq_codec_iff {a : String} (ha : IsTypeName a) (b : String) :
    Ident.spelled a = b ++ codecWord ↔ a = b ++ codecWord := by
  rcases ha.spelled_eq_or with h | ⟨hspelled, hname⟩
  · rw [h]
  · exact iff_of_false (fun h => hspelled (h ▸ mem_codec b)) fun h => hname (h ▸ mem_codec b)

/-- The only capital letter of keywords is that of `Self`. -/
theorem capitals_keyword : ∀ name ∈ Target.keywords,
    name.toList.all fun c => !c.isUpper || c == 'S' := by
  decide

/-- A name with another capital letter is no keyword. -/
theorem notMem_keywords {name : String} {c : Char} (hc : c ∈ name.toList) (hupper : c.isUpper)
    (hne : c ≠ 'S') : name ∉ Target.keywords := by
  intro hname
  have hcapital := List.all_eq_true.mp (capitals_keyword name hname) c hc
  simp [hupper, hne] at hcapital

/-- A type has the name of a codec exactly if its message has. -/
theorem messageIdent?_eq_codec_iff {a b : String} {ident codec : Ident} (ha : IsTypeName a)
    (hident : messageIdent? a = some ident) (hcodec : codecIdent? b = some codec) :
    ident = codec ↔ a = b ++ codecWord := by
  obtain ⟨-, rfl⟩ := codecIdent?_eq_some.mp hcodec
  have hname := Ident.name_of_ofName? hident
  constructor
  · rintro rfl
    exact (spelled_eq_codec_iff ha b).mp hname.symm
  · intro h
    rw [messageIdent?, Ident.ofName?_eq, (spelled_eq_codec_iff ha b).mpr h] at hident
    have hplain := notMem_keywords (mem_codec b) (by decide) (by decide)
    rw [if_neg hplain] at hident
    exact (Ident.plain?_eq_some.mp hident).2.symm

/-! ## Members -/

/-- A field has an identifier exactly if one can be made of its name in camel case. -/
theorem fieldIdent?_isSome_iff (field : String) :
    (fieldIdent? field).isSome ↔ Text.IsNameable (camelCase field).toList :=
  Ident.ofName?_isSome_iff _

/-- The keys of a map have an identifier exactly if a field of that name has. -/
theorem mapKeysIdent?_isSome_iff (field : String) :
    (mapKeysIdent? field).isSome ↔ Text.IsNameable (camelCase field).toList := by
  have hword : Text.isIdentifier "Keys".toList := by decide
  rw [mapKeysIdent?, Ident.ofName?_isSome_iff, String.toList_append, Text.isNameable_append hword]

/-- The values of a map have an identifier exactly if a field of that name has. -/
theorem mapValuesIdent?_isSome_iff (field : String) :
    (mapValuesIdent? field).isSome ↔ Text.IsNameable (camelCase field).toList := by
  have hword : Text.isIdentifier "Values".toList := by decide
  rw [mapValuesIdent?, Ident.ofName?_isSome_iff, String.toList_append, Text.isNameable_append hword]

/-- Every character of joined words is one of theirs and no underscore, or the upper case of
one. -/
theorem mem_camelFrom {c : Char} {cs : List Char} :
    ∀ {started raise : Bool}, c ∈ camelFrom started raise cs →
      ∃ d ∈ cs, d ≠ '_' ∧ (c = d ∨ c ∈ Text.upper d) := by
  induction cs with
  | nil =>
    intro _ _ h
    cases h
  | cons d cs ih =>
    intro started raise h
    unfold camelFrom at h
    split at h
    next =>
      obtain ⟨e, he, hne, hc⟩ := ih h
      exact ⟨e, List.mem_cons_of_mem _ he, hne, hc⟩
    next hd =>
      have hmem : c = d ∨ c ∈ Text.upper d ∨ c ∈ camelFrom true false cs := by
        split at h
        next => exact .inr (List.mem_append.mp h)
        next => exact (List.mem_cons.mp h).imp_right .inr
      rcases hmem with hc | hc | hc
      · exact ⟨d, List.mem_cons_self, hd, .inl hc⟩
      · exact ⟨d, List.mem_cons_self, hd, .inr hc⟩
      · obtain ⟨e, he, hne, hc⟩ := ih hc
        exact ⟨e, List.mem_cons_of_mem _ he, hne, hc⟩

/-- Camel case makes each character from one of the name that is no underscore, raised or as it is.
-/
theorem mem_camelCase {c : Char} {field : String} (h : c ∈ (camelCase field).toList) :
    ∃ d ∈ field.toList, d ≠ '_' ∧ (c = d ∨ c ∈ Text.upper d) := by
  rw [camelCase, String.toList_ofList] at h
  exact mem_camelFrom h

/-- Words are joined without their underscores. -/
theorem underscore_notMem_camelCase (field : String) : '_' ∉ (camelCase field).toList := by
  intro h
  obtain ⟨d, -, hd, heq | hupper⟩ := mem_camelCase h
  · exact hd heq.symm
  · exact hd (Text.mem_of_mem_upper (by decide) hupper).symm

/-- Two fields have the same member exactly if their words make the same word: what is done for a
keyword, for a digit in front and for no word at all never makes two words one. -/
theorem fieldIdent?_eq_iff {a b : String} {i j : Ident} (ha : fieldIdent? a = some i)
    (hb : fieldIdent? b = some j) : i = j ↔ camelCase a = camelCase b :=
  (Ident.ofName?_eq_iff ha hb).trans
    (Ident.spelled_inj (underscore_notMem_camelCase a) (underscore_notMem_camelCase b))

/-- The keys of a map and its values are in two members. -/
theorem mapKeysIdent?_ne_mapValuesIdent? {field : String} {keys values : Ident}
    (hkeys : mapKeysIdent? field = some keys) (hvalues : mapValuesIdent? field = some values) :
    keys ≠ values := by
  have hword : ∀ word : String, '_' ∉ word.toList → '_' ∉ (camelCase field ++ word).toList := by
    intro word h
    rw [String.toList_append, List.mem_append, not_or]
    exact ⟨underscore_notMem_camelCase field, h⟩
  rw [Ne, Ident.ofName?_eq_iff hkeys hvalues,
    Ident.spelled_inj (hword "Keys" (by decide)) (hword "Values" (by decide)),
    String.append_right_inj]
  decide

/-! ## Names that are words -/

/-- Words are joined to letters and digits. -/
theorem isAlphanum_of_mem_camelCase {name : String} (h : Text.isWord name.toList) :
    ∀ c ∈ (camelCase name).toList, c.isAlphanum := by
  intro c hc
  obtain ⟨d, hmem, hd, heq⟩ := mem_camelCase hc
  have hidentifier := Text.isWord_iff.mp h
  have hpart : Text.isWordPart d := Text.isWordPart_iff.mpr
    ⟨Text.isIdentifierContinue_of_mem hidentifier.1 d hmem, hidentifier.2 d hmem⟩
  have halphanum : d.isAlphanum := by simpa [Text.isWordPart, hd] using hpart
  rcases heq with rfl | hupper
  · exact halphanum
  · exact Text.isAlphanum_of_mem_upper halphanum hupper

/-- The codec of a word can be used as a name. -/
theorem codec_isUsable {name : String} (h : Text.isWord name.toList) :
    (Ident.plain (name ++ codecWord)).IsUsable := by
  have hword : Text.isIdentifier codecWord.toList := by decide
  have hascii : codecWord.toList.all (·.toNat < 128) := by decide
  obtain ⟨hidentifier, hname⟩ := Text.isWord_iff.mp h
  refine ⟨Text.isWord_iff.mpr ⟨?_, ?_⟩, ?_,
    notMem_keywords (mem_codec name) (by decide) (by decide)⟩
  · rw [Ident.name, String.toList_append]
    exact (Text.isIdentifier_append hword _).mpr (.inr hidentifier)
  · rw [Ident.name, String.toList_append, List.forall_mem_append]
    exact ⟨hname, by simpa using hascii⟩
  · intro hunderscore
    have hmem := mem_codec name
    rw [Ident.name] at hunderscore
    rw [hunderscore] at hmem
    revert hmem
    decide

/-- The words behind the names of a map's members are ASCII, and no keyword has their capitals. -/
theorem mapWord_capital : ∀ word ∈ ["Keys", "Values"],
    word.toList.all (·.toNat < 128) ∧ word.toList.any fun c => c.isUpper && c != 'S' := by
  decide

/-- A member of a map can be used as a name, and is not raw. -/
theorem mapIdent_isUsable {name word : String} {ident : Ident} (h : Text.isWord name.toList)
    (hword : word ∈ ["Keys", "Values"])
    (hident : Ident.ofName? (camelCase name ++ word) = some ident) :
    ident.IsUsable ∧ ∀ keyword, ident.text ≠ "r#" ++ keyword := by
  obtain ⟨hascii, hcapital⟩ := mapWord_capital word hword
  obtain ⟨c, hc, hupper, hne⟩ : ∃ c ∈ word.toList, c.isUpper ∧ c ≠ 'S' := by
    simpa using hcapital
  have hmem : c ∈ (camelCase name ++ word).toList := by
    rw [String.toList_append]
    exact List.mem_append_right _ hc
  constructor
  · refine Ident.isUsable_of_ofName? hident ?_
    rw [String.toList_append, List.forall_mem_append]
    exact ⟨fun d hd => Text.toNat_lt_of_isAlphanum (isAlphanum_of_mem_camelCase h d hd),
      by simpa using hascii⟩
  · intro keyword hraw
    obtain ⟨-, hkeyword, -⟩ := (Ident.text_eq_raw_iff hident keyword).mp hraw
    exact notMem_keywords hmem hupper hne hkeyword

/-- A word has a member for a field and two for a map, a type and a codec. The text of each can be
used as a name in emitted code. It is the raw form of a keyword exactly if it is that of a field or
a type, and the joined words of the field or the name of the type are the keyword, which is none of
those that have no raw form. -/
theorem idents_usable {name : String} (h : Text.isWord name.toList) :
    ∃ field keys values type codec : Ident,
      fieldIdent? name = some field ∧ mapKeysIdent? name = some keys ∧
      mapValuesIdent? name = some values ∧ messageIdent? name = some type ∧
      codecIdent? name = some codec ∧
      (∀ ident ∈ [field, keys, values, type, codec], ident.IsUsable) ∧
      ∀ keyword : String,
        (field.text = "r#" ++ keyword ↔ keyword = camelCase name ∧
          camelCase name ∈ Target.keywords ∧ camelCase name ∉ Target.pathKeywords) ∧
        (type.text = "r#" ++ keyword ↔ keyword = name ∧
          name ∈ Target.keywords ∧ name ∉ Target.pathKeywords) ∧
        ∀ ident ∈ [keys, values, codec], ident.text ≠ "r#" ++ keyword := by
  have hidentifier := Text.isWord_iff.mp h
  have hcamel := isAlphanum_of_mem_camelCase h
  have hnameable := Text.isNameable_of_isAlphanum hcamel
  have htypeName : IsTypeName name := .inr hidentifier.1
  obtain ⟨field, hfield⟩ := Option.isSome_iff_exists.mp
    ((fieldIdent?_isSome_iff name).mpr hnameable)
  obtain ⟨keys, hkeys⟩ := Option.isSome_iff_exists.mp
    ((mapKeysIdent?_isSome_iff name).mpr hnameable)
  obtain ⟨values, hvalues⟩ := Option.isSome_iff_exists.mp
    ((mapValuesIdent?_isSome_iff name).mpr hnameable)
  obtain ⟨type, htype⟩ := Option.isSome_iff_exists.mp htypeName.messageIdent?_isSome
  have hcodec : codecIdent? name = some (.plain (name ++ codecWord)) :=
    codecIdent?_eq_some.mpr ⟨htypeName, rfl⟩
  have hfieldUsable := Ident.isUsable_of_ofName? hfield fun c hc =>
    Text.toNat_lt_of_isAlphanum (hcamel c hc)
  have htypeUsable := Ident.isUsable_of_ofName? htype hidentifier.2
  have hcodecUsable := codec_isUsable h
  obtain ⟨hkeysUsable, hkeysRaw⟩ := mapIdent_isUsable h (by decide) hkeys
  obtain ⟨hvaluesUsable, hvaluesRaw⟩ := mapIdent_isUsable h (by decide) hvalues
  refine ⟨field, keys, values, type, _, hfield, hkeys, hvalues, htype, hcodec, ?_,
    fun keyword => ⟨Ident.text_eq_raw_iff hfield keyword, Ident.text_eq_raw_iff htype keyword, ?_⟩⟩
  · simp [hfieldUsable, hkeysUsable, hvaluesUsable, htypeUsable, hcodecUsable]
  · have hcodecRaw : (Ident.plain (name ++ codecWord)).text ≠ "r#" ++ keyword :=
      Ident.text_raw_ne (Text.isWord_iff.mp hcodecUsable.isWord).1 keyword
    simp [hkeysRaw, hvaluesRaw, hcodecRaw]

/-- An underscore behind a keyword goes away in a member, which becomes raw, and stays in a type. -/
theorem idents_usable_type :
    Text.isWord "type_".toList ∧
    ∃ field type codec : Ident, fieldIdent? "type_" = some field ∧ field.text = "r#type" ∧
      messageIdent? "type_" = some type ∧ (∀ keyword, type.text ≠ "r#" ++ keyword) ∧
      codecIdent? "type_" = some codec ∧ codec.IsUsable := by
  have hword : Text.isWord "type_".toList := by decide
  obtain ⟨field, keys, values, type, codec, hfield, -, -, htype, hcodec, husable, hraw⟩ :=
    idents_usable hword
  have hcamel : camelCase "type_" = "type" := by decide
  refine ⟨hword, field, type, codec, hfield, ?_, htype, fun keyword h => ?_, hcodec,
    husable codec (by simp)⟩
  · exact (hraw "type").1.mpr (by rw [hcamel]; decide)
  · exact absurd ((hraw keyword).2.1.mp h).2.1 (by decide)

/-! ## References -/

/-- The name of a type has no dot in it. -/
theorem dot_notMem {name : String} (h : IsTypeName name) : '.' ∉ name.toList := by
  rcases h with rfl | h
  · simp
  · intro hdot
    have hcontinue := Text.isIdentifierContinue_of_mem h '.' hdot
    revert hcontinue
    decide

/-- A qualified name refers to the message with its last segment as local name. -/
theorem localName?_append_eq_some {name other : String} (h : IsTypeName name) (front : String) :
    localName? (front ++ "." ++ name) = some other ↔ name ≠ "" ∧ name = other := by
  have hpiece : Text.lastPiece '.' (front ++ "." ++ name).toList = name.toList := by
    simpa using Text.lastPiece_append (dot_notMem h) front.toList
  unfold localName?
  rw [hpiece]
  split
  next hempty => simp [String.toList_eq_nil_iff.mp hempty]
  next hne =>
    have hname : name ≠ "" := fun hempty => hne (String.toList_eq_nil_iff.mpr hempty)
    simp [hname]

end Wiregen.Naming
