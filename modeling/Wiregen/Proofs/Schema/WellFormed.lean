import Mathlib.Algebra.Group.Int.Defs
import Mathlib.Data.List.Forall2
import Wiregen.Failure
import Wiregen.Proofs.Schema.Declared

/-!
# Descriptors that are taken over

A descriptor is taken over exactly if each of its fields is well-formed, those of map entries
included: its number is one that fields may have and, where it refers to a map entry, it is repeated
and the entry holds a key and a value. Otherwise the failure names the owner of the first field that
is not (`ofDescriptor_checks`). What a descriptor is taken over as has its messages in their order,
and their fields with all gaps filled in (`Message.IsFrom`).
-/

namespace Wiregen.Schema

/-! ## Well-formed fields -/

/-- The fields of a map entry, in one order or the other: a key, number 1, and a value, number 2. -/
structure IsKeyValue (entry : Descriptor.Message) (key value : Descriptor.Field) : Prop where
  fields_eq : entry.fields = [key, value] ∨ entry.fields = [value, key]
  key_name : key.nameText = "key"
  key_number : key.numberValue = 1
  value_name : value.nameText = "value"
  value_number : value.numberValue = 2

/-- A field with a number that fields may have which is repeated if it refers to a map entry, and
then refers to one that holds a key and a value. -/
structure IsWellFormed (file : Descriptor.File) (f : Descriptor.Field) : Prop where
  number_pos : 1 ≤ f.numberValue.toInt
  number_le : f.numberValue.toInt ≤ 2 ^ 29 - 1
  repeated : ∀ entry, entryOf? file f = some entry → Label.ofNumber f.label = .repeated
  keyValue : ∀ entry, entryOf? file f = some entry → ∃ key value, IsKeyValue entry key value

/-- A field that one of a descriptor is taken over as. -/
structure Field.IsFrom (file : Descriptor.File) (f : Descriptor.Field) (g : Field) : Prop where
  name_eq : g.name = f.nameText
  number_eq : g.number = f.numberValue
  typeCode_eq : g.typeCode = f.typeCode
  typeName_eq : g.typeName = f.referencedType?
  label_eq : g.label = Label.ofNumber f.label
  oneofIndex_eq : g.oneofIndex = f.oneofIndex
  mapEntry_none : entryOf? file f = none → g.mapEntry = none
  mapEntry_some : ∀ entry, entryOf? file f = some entry → ∃ key value,
    IsKeyValue entry key value ∧
      g.mapEntry = some ⟨key.typeCode, value.typeCode, value.referencedType?⟩

/-- A message that a declared one is taken over as. -/
structure Message.IsFrom (file : Descriptor.File) (d : Declaration) (m : Message) : Prop where
  name_eq : m.name = d.message.nameText
  fullName_eq : m.fullName = d.fullName
  isMapEntry_eq : m.isMapEntry = d.message.isMapEntry
  fields : List.Forall₂ (Field.IsFrom file) d.message.fields m.fields

/-! ## Map entries -/

/-- Whether a field of a map entry is the one with a name and a number. -/
theorem entryField_eq_ok {owner : String} {entry : Descriptor.Message} {name : String}
    {number : Int32} {f : Descriptor.Field} :
    entryField owner entry name number = .ok f ↔
      (entry.fields.find? fun f => f.nameText = name && f.numberValue = number) = some f := by
  unfold entryField
  split
  next g hg => simp [hg]
  next hnone => simp [hnone]

/-- A missing field of an entry is a fault of the message that owns the map. -/
theorem entryField_eq_error {owner : String} {entry : Descriptor.Message} {name : String}
    {number : Int32} {failure : Failure} (h : entryField owner entry name number = .error failure) :
    ∃ reason, failure = .malformedSchema owner reason := by
  unfold entryField at h
  split at h
  next => cases h
  next =>
    cases h
    exact ⟨_, rfl⟩

/-- The fields that are found in a map entry of two are its key and its value. -/
theorem isKeyValue_iff {entry : Descriptor.Message} {key value : Descriptor.Field} :
    IsKeyValue entry key value ↔ entry.fields.length = 2 ∧
      (entry.fields.find? fun f => f.nameText = "key" && f.numberValue = 1) = some key ∧
      (entry.fields.find? fun f => f.nameText = "value" && f.numberValue = 2) = some value := by
  constructor
  · rintro ⟨hfields | hfields, hkey, hkey', hvalue, hvalue'⟩
    · simp [hfields, hkey, hkey', hvalue, hvalue']
    · simp [hfields, hkey, hkey', hvalue, hvalue']
  · rintro ⟨hlength, hkey, hvalue⟩
    obtain ⟨first, second, hfields⟩ := List.length_eq_two.mp hlength
    have hkeyIs := List.find?_some hkey
    have hvalueIs := List.find?_some hvalue
    have hkeyMem := List.mem_of_find?_eq_some hkey
    have hvalueMem := List.mem_of_find?_eq_some hvalue
    simp only [Bool.and_eq_true, decide_eq_true_eq] at hkeyIs hvalueIs
    simp only [hfields, List.mem_cons, List.not_mem_nil, or_false] at hkeyMem hvalueMem
    have hne : key ≠ value := by
      rintro rfl
      exact absurd (hkeyIs.1.symm.trans hvalueIs.1) (by decide)
    refine ⟨?_, hkeyIs.1, hkeyIs.2, hvalueIs.1, hvalueIs.2⟩
    -- One of the two fields is not both of them.
    rcases hkeyMem with rfl | rfl
    · rcases hvalueMem with rfl | rfl
      · exact absurd rfl hne
      · exact .inl hfields
    · rcases hvalueMem with rfl | rfl
      · exact .inr hfields
      · exact absurd rfl hne

/-- The types of a map entry are those of its key and its value. -/
theorem mapEntryTypes_eq_ok {owner : String} {entry : Descriptor.Message} {types : MapEntry} :
    mapEntryTypes owner entry = .ok types ↔ ∃ key value, IsKeyValue entry key value ∧
      (⟨key.typeCode, value.typeCode, value.referencedType?⟩ : MapEntry) = types := by
  unfold mapEntryTypes
  split
  next hlength =>
    simp [isKeyValue_iff, hlength]
  next hlength =>
    have hlength : entry.fields.length = 2 := Decidable.not_not.mp hlength
    simp only [bind_eq_ok, entryField_eq_ok, isKeyValue_iff, hlength, true_and, pure, Except.pure,
      Except.ok.injEq, and_assoc, exists_and_left]

/-- A fault of an entry is a fault of the message that owns the map. -/
theorem mapEntryTypes_eq_error {owner : String} {entry : Descriptor.Message} {failure : Failure}
    (h : mapEntryTypes owner entry = .error failure) :
    ∃ reason, failure = .malformedSchema owner reason := by
  unfold mapEntryTypes at h
  split at h
  next =>
    cases h
    exact ⟨_, rfl⟩
  next =>
    cases hkey : entryField owner entry "key" 1 with
    | error failure' =>
      rw [hkey] at h
      cases h
      exact entryField_eq_error hkey
    | ok key =>
      rw [hkey] at h
      cases hvalue : entryField owner entry "value" 2 with
      | error failure' =>
        simp only [hvalue] at h
        cases h
        exact entryField_eq_error hvalue
      | ok value =>
        simp only [hvalue] at h
        cases h

/-! ## Work that is checked -/

/-- Work on fields that are to be well-formed, and its result. If all of them are, it succeeds with
what is meant to come of them. If not, it fails at the first that is not, with the name of that
field's owner. -/
inductive Checks {α : Type} (file : Descriptor.File) (fields : List (String × Descriptor.Field))
    (post : α → Prop) : Except Failure α → Prop
  | accepts {a : α} (hall : ∀ f ∈ fields, IsWellFormed file f.2) (hpost : post a) :
    Checks file fields post (.ok a)
  | refuses (before after : List (String × Descriptor.Field)) {owner : String}
    {f : Descriptor.Field} {reason : String} (hsplit : fields = before ++ (owner, f) :: after)
    (hbefore : ∀ g ∈ before, IsWellFormed file g.2) (hf : ¬ IsWellFormed file f) :
    Checks file fields post (.error (.malformedSchema owner reason))

namespace Checks

variable {α β : Type} {file : Descriptor.File} {fields others : List (String × Descriptor.Field)}
  {post : α → Prop}

/-- Work that succeeds checks no fields. -/
theorem ok {a : α} (hpost : post a) : Checks file [] post (.ok a) :=
  .accepts (fun _ h => nomatch h) hpost

/-- Work in two steps checks the fields of the first and then those of the second. -/
theorem bind {post' : β → Prop} {work : Except Failure α} {next : α → Except Failure β}
    (h : Checks file fields post work) (hnext : ∀ a, post a → Checks file others post' (next a)) :
    Checks file (fields ++ others) post' (work >>= next) := by
  cases h with
  | refuses before after hsplit hbefore hf =>
    refine .refuses before (after ++ others) ?_ hbefore hf
    rw [hsplit, List.append_assoc, List.cons_append]
  | @accepts a hall hpost =>
    have hsecond : Checks file others post' (next a) := hnext a hpost
    show Checks file (fields ++ others) post' (next a)
    generalize next a = second at hsecond ⊢
    cases hsecond with
    | accepts hall' hpost' =>
      refine .accepts (fun f hf => ?_) hpost'
      rcases List.mem_append.mp hf with hf | hf
      · exact hall f hf
      · exact hall' f hf
    | refuses before after hsplit hbefore hf =>
      refine .refuses (fields ++ before) after ?_ (fun g hg => ?_) hf
      · rw [hsplit, List.append_assoc]
      · rcases List.mem_append.mp hg with hg | hg
        · exact hall g hg
        · exact hbefore g hg

/-- Work that goes on without fields checks those it starts with. -/
theorem map {post' : β → Prop} {work : Except Failure α} {f : α → β}
    (h : Checks file fields post work) (hpost : ∀ a, post a → post' (f a)) :
    Checks file fields post' (work >>= fun a => .ok (f a)) := by
  have hbind : Checks file (fields ++ []) post' (work >>= fun a => .ok (f a)) :=
    h.bind fun a ha => ok (hpost a ha)
  rwa [List.append_nil] at hbind

/-- Checked work succeeds exactly if all fields are well-formed. -/
theorem eq_ok_iff {work : Except Failure α} (h : Checks file fields post work) :
    (∃ a, work = .ok a) ↔ ∀ f ∈ fields, IsWellFormed file f.2 := by
  cases h with
  | accepts hall hpost => exact iff_of_true ⟨_, rfl⟩ hall
  | refuses before after hsplit hbefore hf =>
    refine iff_of_false (fun ⟨a, ha⟩ => nomatch ha) fun hall => hf ?_
    exact hall (_, _) (by rw [hsplit]; exact List.mem_append_right _ List.mem_cons_self)

end Checks

/-! ## Fields and messages -/

section
variable (file : Descriptor.File)

/-- The numbers that are refused are those that fields may not have. -/
theorem number_refused_iff (number : Int32) :
    (number < 1 || maxFieldNumber < number) = true ↔
      ¬ (1 ≤ number.toInt ∧ number.toInt ≤ 2 ^ 29 - 1) := by
  have hone : (1 : Int32).toInt = 1 := by decide
  have hmax : maxFieldNumber.toInt = 2 ^ 29 - 1 := by decide
  rw [Bool.or_eq_true, decide_eq_true_eq, decide_eq_true_eq, Int32.lt_iff_toInt_lt,
    Int32.lt_iff_toInt_lt, hone, hmax]
  omega

/-- A field is taken over if it is well-formed, and otherwise its owner is named. -/
theorem field_checks (owner : String) (path : List Int32) (f : Descriptor.Field) :
    Checks file [(owner, f)] (Field.IsFrom file f) (field (surroundings file) owner path f) := by
  have accepts : ∀ {g : Field}, IsWellFormed file f → g.IsFrom file f →
      Checks file [(owner, f)] (Field.IsFrom file f) (.ok g) := by
    intro g hf hg
    refine .accepts (fun p hp => ?_) hg
    rw [List.mem_singleton.mp hp]
    exact hf
  have refuses : ∀ {reason : String}, ¬ IsWellFormed file f →
      Checks file [(owner, f)] (Field.IsFrom file f) (.error (.malformedSchema owner reason)) :=
    fun hf => .refuses [] [] rfl (fun _ h => nomatch h) hf
  have hentry : f.typeName.bind (Surroundings.entry? (surroundings file)) = entryOf? file f := by
    rw [entryOf?, funext (lookup_entry_eq file)]
  unfold field
  by_cases hout : (f.numberValue < 1 || maxFieldNumber < f.numberValue) = true
  · rw [if_pos hout]
    refine refuses fun hf => ?_
    exact (number_refused_iff f.numberValue).mp hout ⟨hf.number_pos, hf.number_le⟩
  · rw [if_neg hout]
    have hnumber := Decidable.not_not.mp ((number_refused_iff f.numberValue).not.mp hout)
    dsimp only
    rw [hentry]
    cases hentryOf : entryOf? file f with
    | none =>
      have hnone : ∀ entry, entryOf? file f ≠ some entry := by simp [hentryOf]
      refine accepts ⟨hnumber.1, hnumber.2, ?_, ?_⟩ ⟨rfl, rfl, rfl, rfl, rfl, rfl, ?_, ?_⟩
      · exact fun entry h => absurd h (hnone entry)
      · exact fun entry h => absurd h (hnone entry)
      · exact fun _ => rfl
      · exact fun entry h => absurd h (hnone entry)
    | some entry =>
      have hself : ∀ {entry'}, entryOf? file f = some entry' → entry = entry' := by
        simp [hentryOf]
      dsimp only
      by_cases hlabel : Label.ofNumber f.label = .repeated
      · rw [if_neg (not_not.mpr hlabel)]
        cases htypes : mapEntryTypes owner entry with
        | ok types =>
          obtain ⟨key, value, hpair, rfl⟩ := mapEntryTypes_eq_ok.mp htypes
          refine accepts ⟨hnumber.1, hnumber.2, ?_, ?_⟩ ⟨rfl, rfl, rfl, rfl, rfl, rfl, ?_, ?_⟩
          · exact fun _ _ => hlabel
          · exact fun entry' h => ⟨key, value, hself h ▸ hpair⟩
          · exact fun h => nomatch hentryOf.symm.trans h
          · exact fun entry' h => ⟨key, value, hself h ▸ hpair, rfl⟩
        | error failure =>
          obtain ⟨reason, rfl⟩ := mapEntryTypes_eq_error htypes
          refine refuses fun hf => ?_
          obtain ⟨key, value, hpair⟩ := hf.keyValue entry hentryOf
          have hok : mapEntryTypes owner entry = .ok _ :=
            mapEntryTypes_eq_ok.mpr ⟨key, value, hpair, rfl⟩
          rw [htypes] at hok
          cases hok
      · rw [if_pos hlabel]
        exact refuses fun hf => hlabel (hf.repeated entry hentryOf)

/-- Fields in a row are checked in their order. -/
theorem fieldsFrom_checks (owner : String) (path : List Int32) (fs : List Descriptor.Field) :
    ∀ index, Checks file (fs.map (owner, ·)) (List.Forall₂ (Field.IsFrom file) fs)
      (fieldsFrom (surroundings file) owner path index fs) := by
  induction fs with
  | nil => exact fun index => .ok .nil
  | cons f fs ih =>
    intro index
    rw [List.map_cons, ← List.singleton_append]
    refine (field_checks file owner _ f).bind fun g hg => ?_
    exact (ih (index + 1)).map fun gs hgs => .cons hg hgs

mutual

/-- Taking a message over checks its fields and then those of the messages in it. -/
theorem message_checks (parent : String) (path : List Int32) : ∀ m : Descriptor.Message,
    Checks file ((declared parent m).flatMap Declaration.fields)
      (fun m' => List.Forall₂ (Message.IsFrom file) (declared parent m) m'.walk)
      (message (surroundings file) parent path m)
  | ⟨name, fields, nested, mapEntry⟩ => by
    rw [declared, List.flatMap_cons, message]
    refine (fieldsFrom_checks file _ path fields 0).bind fun fields' hfields => ?_
    refine (messagesFrom_checks _ path messageNested nested 0).map fun nested' hnested => ?_
    exact .cons ⟨rfl, rfl, rfl, hfields⟩ hnested

/-- Taking messages over checks the fields of all of them, one message after the other. -/
theorem messagesFrom_checks (parent : String) (path : List Int32) (list : Int32) :
    ∀ (ms : List Descriptor.Message) (index : Nat),
      Checks file ((declaredIn parent ms).flatMap Declaration.fields)
        (fun ms' => List.Forall₂ (Message.IsFrom file) (declaredIn parent ms) (walkAll ms'))
        (messagesFrom (surroundings file) parent path list index ms)
  | [], _ => .ok .nil
  | m :: ms, index => by
    rw [declaredIn, List.flatMap_append, messagesFrom]
    refine (message_checks parent _ m).bind fun m' hm => ?_
    refine (messagesFrom_checks parent path list ms (index + 1)).map fun ms' hms => ?_
    exact List.rel_append hm hms

end

end

/-- Taking a descriptor over checks its fields, in the order in which they are declared. -/
theorem ofDescriptor_checks (file : Descriptor.File) :
    Checks file (declaredFields file)
      (fun schema => List.Forall₂ (Message.IsFrom file) (declarations file) schema.walk)
      (ofDescriptor file) :=
  (messagesFrom_checks file file.packageText [] fileMessages file.messages 0).map fun _ h => h

/-- What a descriptor is taken over as has its messages, in their order. -/
theorem ofDescriptor_isFrom {file : Descriptor.File} {schema : File}
    (h : ofDescriptor file = .ok schema) :
    List.Forall₂ (Message.IsFrom file) (declarations file) schema.walk := by
  have hchecks := ofDescriptor_checks file
  rw [h] at hchecks
  cases hchecks with
  | accepts _ hpost => exact hpost

/-! ## Names of types -/

/-- A type name that is there is not empty. -/
theorem referencedType?_ne (f : Descriptor.Field) : f.referencedType? ≠ some "" := by
  simp [Descriptor.Field.referencedType?, Option.filter_eq_some_iff]

/-- A field that was taken over has no empty type name, and nor have the values of its map. -/
theorem Field.IsFrom.typeName_ne {file : Descriptor.File} {f : Descriptor.Field} {g : Field}
    (h : g.IsFrom file f) : g.typeName ≠ some "" ∧
      ∀ types, g.mapEntry = some types → types.valueTypeName ≠ some "" := by
  constructor
  · rw [h.typeName_eq]
    exact referencedType?_ne f
  · intro types htypes
    cases hentry : entryOf? file f with
    | none =>
      rw [h.mapEntry_none hentry] at htypes
      cases htypes
    | some entry =>
      obtain ⟨key, value, -, hmapEntry⟩ := h.mapEntry_some entry hentry
      rw [hmapEntry] at htypes
      cases htypes
      exact referencedType?_ne value

/-- What is true of all that elements are related to is true of the whole list. -/
theorem forall_mem_of_forall₂ {α β : Type} {R : α → β → Prop} {p : β → Prop} {as : List α}
    {bs : List β} (h : List.Forall₂ R as bs) (hp : ∀ a b, R a b → p b) : ∀ b ∈ bs, p b := by
  have hflip : List.Forall₂ (fun b a => p b ∧ R a b) bs as :=
    h.flip.imp fun b a hab => ⟨hp a b hab, hab⟩
  exact ((List.forall₂_and_left bs as).mp hflip).1

/-! ## Acceptance -/

/-- A descriptor is taken over exactly if all its fields are well-formed. Otherwise the failure
names the owner of the first field that is not. A schema that it is taken over as has its messages
in their order with their fields, and no type name that is empty. -/
theorem ofDescriptor_accepts (file : Descriptor.File) :
    ((∃ schema, ofDescriptor file = .ok schema) ↔
      ∀ f ∈ declaredFields file, IsWellFormed file f.2) ∧
    (∀ failure, ofDescriptor file = .error failure → ∃ before owner f after reason,
      declaredFields file = before ++ (owner, f) :: after ∧
        (∀ g ∈ before, IsWellFormed file g.2) ∧ ¬ IsWellFormed file f ∧
        failure = .malformedSchema owner reason) ∧
    ∀ schema, ofDescriptor file = .ok schema →
      schema.name = file.nameText ∧ schema.package = file.packageText ∧
      List.Forall₂ (Message.IsFrom file) (declarations file) schema.walk ∧
      ∀ m ∈ schema.walk, ∀ g ∈ m.fields, g.typeName ≠ some "" ∧
        ∀ types, g.mapEntry = some types → types.valueTypeName ≠ some "" := by
  have hchecks := ofDescriptor_checks file
  refine ⟨hchecks.eq_ok_iff, fun failure h => ?_, fun schema h => ?_⟩
  · rw [h] at hchecks
    cases hchecks with
    | refuses before after hsplit hbefore hf =>
      exact ⟨before, _, _, after, _, hsplit, hbefore, hf, rfl⟩
  · have hfrom := ofDescriptor_isFrom h
    obtain ⟨messages, -, hschema⟩ := bind_eq_ok.mp h
    cases hschema
    refine ⟨rfl, rfl, hfrom, ?_⟩
    refine forall_mem_of_forall₂ hfrom fun d m hm => ?_
    exact forall_mem_of_forall₂ hm.fields fun f g hg => hg.typeName_ne

/-! ## An entry that is declared elsewhere -/

/-- A file whose first message has a map field. The entry is declared in the second message, value
first, with the given number for its key. -/
def depotFile (key : Int32) : Descriptor.File :=
  { name := some "shop.proto"
    package := some "shop"
    messages := [
      { name := some "Stock"
        fields := [
          { name := some "counts", number := some 1, type := some 11, label := some 3,
            typeName := some ".shop.Depot.CountsEntry" }] },
      { name := some "Depot"
        nested := [
          { name := some "CountsEntry"
            fields := [
              { name := some "value", number := some 2, type := some 13 },
              { name := some "key", number := some key, type := some 9 }]
            mapEntry := some true }] }] }

/-- The field that refers to the entry is taken over if the key has number 1. If it has another, its
owner is named, though the entry is declared in another message. -/
theorem ofDescriptor_accepts_depot :
    (∃ schema, ofDescriptor (depotFile 1) = .ok schema ∧
      List.Forall₂ (Message.IsFrom (depotFile 1)) (declarations (depotFile 1)) schema.walk) ∧
    ∃ reason before f after,
      ofDescriptor (depotFile 3) = .error (.malformedSchema "shop.Stock" reason) ∧
        declaredFields (depotFile 3) = before ++ ("shop.Stock", f) :: after ∧
        (∀ g ∈ before, IsWellFormed (depotFile 3) g.2) ∧ ¬ IsWellFormed (depotFile 3) f := by
  constructor
  · have hok : (ofDescriptor (depotFile 1)).toOption.isSome := by decide +kernel
    obtain ⟨schema, hschema⟩ := toOption_isSome.mp hok
    exact ⟨schema, hschema, ((ofDescriptor_accepts (depotFile 1)).2.2 schema hschema).2.2.1⟩
  · have hrefused : ofDescriptor (depotFile 3) = .error (.malformedSchema "shop.Stock" _) := rfl
    obtain ⟨before, owner, f, after, reason, hsplit, hbefore, hf, hfailure⟩ :=
      (ofDescriptor_accepts (depotFile 3)).2.1 _ hrefused
    cases hfailure
    exact ⟨_, before, f, after, hrefused, hsplit, hbefore, hf⟩

end Wiregen.Schema
