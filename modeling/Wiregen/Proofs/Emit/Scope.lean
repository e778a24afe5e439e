import Mathlib.Data.List.Pairwise
import Wiregen.Proofs.Emit.Keys
import Wiregen.Proofs.Naming

/-!
# The names that a file declares

Every message of a file declares a type and a codec (`fileItems_declared`), all in one scope. That
the local names of the messages differ is checked (`localNames_nodup`). That is not enough: no name
is declared twice exactly if, besides, no message is called like the codec of another and no two
types are spelled alike (`declared_nodup_iff`).
-/

namespace Wiregen.Emit

open Naming (IsTypeName codecWord)
open Target (Ident Item)

/-! ## Local names -/

/-- No clash is found among messages exactly if their local names differ from each other and from
those seen before. -/
theorem firstClash_eq_none {messages : List Schema.Message} :
    ∀ {seen : List Schema.Message}, firstClash seen messages = none ↔
      (messages.map (·.name)).Nodup ∧ ∀ m ∈ messages, ∀ s ∈ seen, s.name ≠ m.name := by
  induction messages with
  | nil => simp [firstClash]
  | cons message others ih =>
    intro seen
    unfold firstClash
    split
    next previous hfind =>
      refine iff_of_false (by simp) fun ⟨_, hseen⟩ => ?_
      have hname : previous.name = message.name := by simpa using List.find?_some hfind
      exact hseen message List.mem_cons_self previous (List.mem_of_find?_eq_some hfind) hname
    next hfind =>
      have hseen : ∀ s ∈ seen, s.name ≠ message.name := by simpa using hfind
      rw [ih, List.map_cons, List.nodup_cons]
      simp only [List.mem_cons, forall_eq_or_imp, List.mem_map, not_exists, not_and]
      constructor
      · rintro ⟨hnodup, hothers⟩
        exact ⟨⟨fun m hm => Ne.symm (hothers m hm).1, hnodup⟩, hseen, fun m hm => (hothers m hm).2⟩
      · rintro ⟨⟨hnew, hnodup⟩, -, hothers⟩
        exact ⟨hnodup, fun m hm => ⟨Ne.symm (hnew m hm), hothers m hm⟩⟩

/-- Where the code of a file is emitted, the local names of its messages differ. -/
theorem localNames_nodup {ctx : Context} {file : Schema.File} {items : List Item}
    (h : (fileItems ctx file).outcome = .ok items) :
    ((emittedMessages file).map (·.name)).Nodup := by
  unfold fileItems at h
  dsimp only at h
  split at h
  next => cases h
  next hnone => exact (firstClash_eq_none.mp hnone).1

/-! ## Declared names -/

/-- The names that a message with the given local name declares. -/
def declaredNames (name : String) : List String :=
  ((Naming.messageIdent? name).toList ++ (Naming.codecIdent? name).toList).map Ident.text

/-- A message with a type and a codec declares the names of the two. -/
theorem declaredNames_of {name : String} {ident codec : Ident}
    (hident : Naming.messageIdent? name = some ident)
    (hcodec : Naming.codecIdent? name = some codec) :
    declaredNames name = [ident.text, codec.text] := by
  rw [declaredNames, hident, hcodec]
  rfl

/-- A message for which there is code has a name that its codec can have, and declares its two
names. -/
theorem messageItems_declared {ctx : Context} {message : Schema.Message} {items : List Item}
    (h : (messageItems ctx message).outcome = .ok items) :
    IsTypeName message.name ∧ items.filterMap Item.declared? = declaredNames message.name := by
  obtain ⟨ident, codec, codes, hident, hcodec, -, rfl⟩ := messageItems_eq_ok h
  exact ⟨(Naming.codecIdent?_eq_some.mp hcodec).1, (declaredNames_of hident hcodec).symm⟩

/-- What a file declares is what its messages declare, in their order. -/
theorem fileItems_declared {ctx : Context} {file : Schema.File} {items : List Item}
    (h : (fileItems ctx file).outcome = .ok items) :
    (∀ m ∈ emittedMessages file, IsTypeName m.name) ∧
      items.filterMap Item.declared? =
        (emittedMessages file).flatMap fun m => declaredNames m.name := by
  obtain ⟨groups, hgroups, rfl⟩ := fileItems_eq_ok h
  constructor
  · have hiff := Reported.forall_mem_each hgroups fun m _ group hgroup =>
      iff_of_true trivial (messageItems_declared hgroup).1
    exact hiff.mp fun _ _ => trivial
  · have hgroup := Reported.map_each hgroups fun m _ group h => (messageItems_declared h).2
    rw [List.flatMap_def, ← hgroup, List.filterMap_flatten]

/-! ## Names that are distinct -/

/-- Names of messages, the first of which is not that of the second's codec, and whose types are not
spelled alike unless the names are the same. -/
structure NamesApart (a b : String) : Prop where
  ne_codec : a ≠ b ++ codecWord
  eq_of_spelled : Ident.spelled a = Ident.spelled b → a = b

instance (a b : String) : Decidable (NamesApart a b) :=
  decidable_of_iff (a ≠ b ++ codecWord ∧ (Ident.spelled a = Ident.spelled b → a = b))
    ⟨fun ⟨h, h'⟩ => ⟨h, h'⟩, fun ⟨h, h'⟩ => ⟨h, h'⟩⟩

/-- A name is apart from itself: the name of the codec is longer. -/
theorem NamesApart.refl (name : String) : NamesApart name name where
  ne_codec h := by
    have hlength := congrArg String.length h
    simp [codecWord] at hlength
  eq_of_spelled _ := rfl

/-- A message declares its type and its codec. -/
theorem declaredNames_eq {name : String} (h : IsTypeName name) : ∃ ident codec,
    Naming.messageIdent? name = some ident ∧ Naming.codecIdent? name = some codec ∧
      declaredNames name = [ident.text, codec.text] := by
  obtain ⟨ident, hident⟩ := Option.isSome_iff_exists.mp h.messageIdent?_isSome
  obtain ⟨codec, hcodec⟩ := Option.isSome_iff_exists.mp (Naming.codecIdent?_isSome_iff.mpr h)
  exact ⟨ident, codec, hident, hcodec, declaredNames_of hident hcodec⟩

section
variable {a b : String} (ha : IsTypeName a)
include ha

/-- A type is declared like a codec exactly if its message is called like it. -/
theorem text_eq_codec_iff {ident codec : Ident} (hident : Naming.messageIdent? a = some ident)
    (hcodec : Naming.codecIdent? b = some codec) :
    ident.text = codec.text ↔ a = b ++ codecWord := by
  rw [Ident.text_inj (Ident.wellFormed_of_ofName? hident) (Ident.wellFormed_of_plain? hcodec),
    Naming.messageIdent?_eq_codec_iff ha hident hcodec]

/-- No message declares a name twice. -/
theorem nodup_declaredNames : (declaredNames a).Nodup := by
  obtain ⟨ident, codec, hident, hcodec, heq⟩ := declaredNames_eq ha
  have hne : ident.text ≠ codec.text := fun h =>
    (NamesApart.refl a).ne_codec ((text_eq_codec_iff ha hident hcodec).mp h)
  simp [heq, hne]

/-- Two messages with different names declare different names exactly if their names are apart. -/
theorem declaredNames_ne_iff (hb : IsTypeName b) (hne : a ≠ b) :
    (∀ x ∈ declaredNames a, ∀ y ∈ declaredNames b, x ≠ y) ↔ NamesApart a b ∧ NamesApart b a := by
  obtain ⟨ident, codec, hident, hcodec, heq⟩ := declaredNames_eq ha
  obtain ⟨ident', codec', hident', hcodec', heq'⟩ := declaredNames_eq hb
  have hspelled : ident.text = ident'.text ↔ Ident.spelled a = Ident.spelled b := by
    rw [Ident.text_inj (Ident.wellFormed_of_ofName? hident) (Ident.wellFormed_of_ofName? hident'),
      Ident.ofName?_eq_iff hident hident']
  have htype : ident.text = codec'.text ↔ a = b ++ codecWord := text_eq_codec_iff ha hident hcodec'
  have htype' : codec.text = ident'.text ↔ b = a ++ codecWord :=
    eq_comm.trans (text_eq_codec_iff hb hident' hcodec)
  have hcodecs : codec.text ≠ codec'.text := by
    rw [Ne, Ident.text_inj (Ident.wellFormed_of_plain? hcodec) (Ident.wellFormed_of_plain? hcodec')]
    rintro rfl
    exact hne (Naming.codecIdent?_inj hcodec hcodec')
  simp only [heq, heq', List.mem_cons, List.not_mem_nil, or_false, forall_eq_or_imp, forall_eq,
    ne_eq, hspelled, htype, htype', hcodecs, not_false_eq_true, and_true]
  constructor
  · rintro ⟨⟨hother, hab⟩, hba⟩
    exact ⟨⟨hab, fun h => absurd h hother⟩, ⟨hba, fun h => absurd h.symm hother⟩⟩
  · rintro ⟨h, h'⟩
    exact ⟨⟨fun hsame => hne (h.eq_of_spelled hsame), h.ne_codec⟩, h'.ne_codec⟩

end

/-- Where the code of a file is emitted, no name is declared twice exactly if the names of any two
of its messages are apart. -/
theorem declared_nodup_iff (ctx : Context) (file : Schema.File) {items : List Item}
    (h : (fileItems ctx file).outcome = .ok items) :
    (items.filterMap Item.declared?).Nodup ↔
      ∀ m ∈ emittedMessages file, ∀ n ∈ emittedMessages file, NamesApart m.name n.name := by
  obtain ⟨htypes, hdeclared⟩ := fileItems_declared h
  have hnames : (emittedMessages file).Pairwise fun m n => m.name ≠ n.name :=
    List.pairwise_map.mp (localNames_nodup h)
  rw [hdeclared, List.Nodup, List.pairwise_flatMap]
  constructor
  · rintro ⟨-, hpairs⟩
    have hapart := (hpairs.and hnames).imp_of_mem fun {m n} hm hn ⟨hne, hname⟩ =>
      (declaredNames_ne_iff (htypes m hm) (htypes n hn) hname).mp hne
    have : Std.Symm fun m n : Schema.Message =>
        NamesApart m.name n.name ∧ NamesApart n.name m.name := ⟨fun _ _ h => h.symm⟩
    have hall := hapart.forall_of_forall fun m _ => ⟨.refl m.name, .refl m.name⟩
    exact fun m hm n hn => (hall hm hn).1
  · intro hall
    refine ⟨fun m hm => nodup_declaredNames (htypes m hm), ?_⟩
    exact hnames.imp_of_mem fun {m n} hm hn hname =>
      (declaredNames_ne_iff (htypes m hm) (htypes n hn) hname).mpr
        ⟨hall m hm n hn, hall n hn m hm⟩

/-! ## Files whose names clash -/

/-- A file with one message without fields for each name. -/
def namedFile (names : List String) : Schema.File :=
  { name := "shop.proto"
    package := ""
    messages := names.map fun name => ⟨name, name, [], [], false, none⟩ }

/-- Keywords are no trouble, with a raw form or without. -/
theorem declared_nodup_keywords : ∃ items,
    (fileItems plainContext (namedFile ["Item", "type", "self"])).outcome = .ok items ∧
      (items.filterMap Item.declared?).Nodup := by
  have hsome : (fileItems plainContext
      (namedFile ["Item", "type", "self"])).outcome.toOption.isSome := by
    decide +kernel
  obtain ⟨items, h⟩ := toOption_isSome.mp hsome
  exact ⟨items, h, (declared_nodup_iff _ _ h).mpr (by decide +kernel)⟩

/-- A message that is called like the codec of another is emitted all the same. -/
theorem declared_clash_codec : ∃ items,
    (fileItems plainContext (namedFile ["Foo", "FooCodec"])).outcome = .ok items ∧
      ¬ (items.filterMap Item.declared?).Nodup := by
  have hclash : (fileItems plainContext (namedFile ["Foo", "FooCodec"])).outcome.toOption.any
      (fun items => !decide (items.filterMap Item.declared?).Nodup) = true := by
    decide +kernel
  obtain ⟨items, h, hdup⟩ := (Option.any_eq_true _ _).mp hclash
  exact ⟨items, toOption_eq_some.mp h, by simpa using hdup⟩

end Wiregen.Emit
