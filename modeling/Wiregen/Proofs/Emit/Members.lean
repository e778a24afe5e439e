import Mathlib.Data.List.Nodup
import Wiregen.Proofs.Emit.Keys

/-!
# Members that clash

The fields of a message become members of its type: one for a value or a list, one for the keys and
one for the values of a map, and none for a field that is left out. If every field has code, so has
the message exactly if no two of these members have one name; otherwise it fails at the first field
that would use a name again (`messageItems_members`).
-/

namespace Wiregen.Emit

open Naming (IsTypeName)
open Target (Ident Item)

/-! ## Members of fields -/

/-- The identifiers of the members that a field becomes. -/
def memberIdents (field : Schema.Field) : List Ident :=
  match shapeOf field with
  | .ok (.singular _) | .ok (.repeated _) => (Naming.fieldIdent? field.name).toList
  | .ok (.map _ _) =>
    (Naming.mapKeysIdent? field.name).toList ++ (Naming.mapValuesIdent? field.name).toList
  | .error _ => []

/-- The names of the members that a field becomes. -/
def memberNames (field : Schema.Field) : List String := (memberIdents field).map Ident.text

/-- The identifiers of members are well formed. -/
theorem memberIdents_wellFormed {field : Schema.Field} :
    ∀ ident ∈ memberIdents field, ident.WellFormed := by
  intro ident h
  unfold memberIdents at h
  split at h
  next => exact Ident.wellFormed_of_ofName? (Option.mem_toList.mp h)
  next => exact Ident.wellFormed_of_ofName? (Option.mem_toList.mp h)
  next =>
    rcases List.mem_append.mp h with h | h
    · exact Ident.wellFormed_of_ofName? (Option.mem_toList.mp h)
    · exact Ident.wellFormed_of_ofName? (Option.mem_toList.mp h)
  next => exact absurd h List.not_mem_nil

/-- The members of one field have different names. -/
theorem nodup_memberIdents (field : Schema.Field) : (memberIdents field).Nodup := by
  unfold memberIdents
  split
  next => cases Naming.fieldIdent? field.name <;> simp
  next => cases Naming.fieldIdent? field.name <;> simp
  next =>
    cases hkeys : Naming.mapKeysIdent? field.name with
    | none => cases Naming.mapValuesIdent? field.name <;> simp
    | some keys =>
      cases hvalues : Naming.mapValuesIdent? field.name with
      | none => simp
      | some values => simpa using Naming.mapKeysIdent?_ne_mapValuesIdent? hkeys hvalues
  next => exact List.nodup_nil

/-- The code of a shape has the members of the field, under their identifiers. -/
theorem codeOf_idents {ctx : Context} {field : Schema.Field} {shape : Schema.Shape ValueForm}
    {code : FieldCode} (hshape : shapeOf field = .ok shape)
    (h : codeOf ctx field shape = .ok code) :
    code.idents = memberIdents field ∧ code.members.map (·.name) = memberNames field := by
  unfold memberNames memberIdents
  rw [hshape]
  cases codeOf_isCodeBy h with
  | scalar hident | message hident | repeated hident =>
    rw [hident]
    exact ⟨rfl, rfl⟩
  | map hkeys hvalues =>
    rw [hkeys, hvalues]
    exact ⟨rfl, rfl⟩

/-- The code of a field has its members; that of a field that is left out has none. -/
theorem fieldCode_idents {ctx : Context} {owner : String} {field : Schema.Field} {code : FieldCode}
    (h : (fieldCode ctx owner field).outcome = .ok code) :
    code.idents = memberIdents field ∧ code.members.map (·.name) = memberNames field := by
  rcases fieldCode_eq_ok h with ⟨shape, hshape, hcode⟩ | ⟨type, marker, hshape, rfl⟩
  · exact codeOf_idents hshape hcode
  · rw [memberNames, memberIdents, hshape]
    exact ⟨rfl, rfl⟩

/-- The members in the code of fields in a row are those of the fields. -/
theorem fieldCodes_members {ctx : Context} {message : Schema.Message} {seen : List Ident}
    {fields : List Schema.Field} {codes : List FieldCode}
    (h : (fieldCodes ctx message seen fields).outcome = .ok codes) :
    (codes.flatMap (·.members)).map (·.name) = fields.flatMap memberNames := by
  rw [List.map_flatMap, List.flatMap_def, List.flatMap_def,
    fieldCodes_map h fun field code hcode => (fieldCode_idents hcode).2]

/-! ## The first repetition -/

/-- A search for a repetition finds none exactly if there is none. -/
theorem firstRepeat_eq_none {seen : List Ident} (hseen : seen.Nodup) {idents : List Ident} :
    firstRepeat seen idents = none ↔ (seen ++ idents).Nodup := by
  induction idents generalizing seen with
  | nil => simpa [firstRepeat] using hseen
  | cons ident others ih =>
    unfold firstRepeat
    split
    next hmem =>
      refine iff_of_false (fun h => nomatch h) fun h => ?_
      exact (List.nodup_append'.mp h).2.2 hmem List.mem_cons_self
    next hnew =>
      rw [ih (List.nodup_cons.mpr ⟨hnew, hseen⟩), List.cons_append, List.nodup_middle]

/-- What it finds is the first that is there already or stands in front of its place. -/
theorem exists_of_firstRepeat {seen idents : List Ident} {ident : Ident} (hseen : seen.Nodup)
    (h : firstRepeat seen idents = some ident) :
    ∃ earlier later, idents = earlier ++ ident :: later ∧ (seen ++ earlier).Nodup ∧
      ident ∈ seen ++ earlier := by
  induction idents generalizing seen with
  | nil => cases h
  | cons first others ih =>
    unfold firstRepeat at h
    split at h
    next hmem =>
      cases h
      exact ⟨[], others, rfl, by simpa using hseen, by simpa using hmem⟩
    next hnew =>
      obtain ⟨earlier, later, rfl, hnodup, hmem⟩ := ih (List.nodup_cons.mpr ⟨hnew, hseen⟩) h
      refine ⟨first :: earlier, later, rfl, List.nodup_middle.mpr hnodup, ?_⟩
      simpa [or_left_comm] using hmem

/-! ## Fields in a row -/

section
variable {ctx : Context} {owner : String} {seen : List Ident}

/-- Whether a field has its code depends on whether there is a repetition. -/
theorem freshCode_outcome {field : Schema.Field} {code : FieldCode}
    (hcode : (fieldCode ctx owner field).outcome = .ok code) :
    (freshCode ctx owner seen field).outcome =
      match firstRepeat seen code.idents with
      | some ident => .error (.failed (repeatedMember owner field ident.text))
      | none => .ok code := by
  rw [freshCode, Reported.bind_outcome, hcode]
  show Reported.outcome (match firstRepeat seen code.idents with | some _ => _ | none => _) = _
  cases firstRepeat seen code.idents <;> rfl

/-- A field whose members are new has its code. -/
theorem freshCode_of_nodup {field : Schema.Field} {code : FieldCode}
    (hcode : (fieldCode ctx owner field).outcome = .ok code)
    (h : (seen ++ memberIdents field).Nodup) :
    (freshCode ctx owner seen field).outcome = .ok code := by
  have hnone : firstRepeat seen code.idents = none := by
    rw [(fieldCode_idents hcode).1]
    exact (firstRepeat_eq_none (List.nodup_append'.mp h).1).mpr h
  rw [freshCode_outcome hcode, hnone]

/-- Another fails at the first of its members that is not new. -/
theorem freshCode_of_not_nodup {field : Schema.Field} {code : FieldCode} (hseen : seen.Nodup)
    (hcode : (fieldCode ctx owner field).outcome = .ok code)
    (h : ¬ (seen ++ memberIdents field).Nodup) :
    ∃ earlier member later, memberIdents field = earlier ++ member :: later ∧
      (seen ++ earlier).Nodup ∧ member ∈ seen ∧
      (freshCode ctx owner seen field).outcome =
        .error (.failed (repeatedMember owner field member.text)) := by
  have hidents := (fieldCode_idents hcode).1
  cases hrepeat : firstRepeat seen code.idents with
  | none => exact absurd ((firstRepeat_eq_none hseen).mp hrepeat) (hidents ▸ h)
  | some member =>
    obtain ⟨earlier, later, hsplit, hnodup, hmem⟩ := exists_of_firstRepeat hseen hrepeat
    rw [hidents] at hsplit
    refine ⟨earlier, member, later, hsplit, hnodup, ?_, ?_⟩
    · have hdistinct := nodup_memberIdents field
      rw [hsplit] at hdistinct
      have hnew : member ∉ earlier := fun hmember =>
        (List.nodup_append'.mp hdistinct).2.2 hmember List.mem_cons_self
      exact (List.mem_append.mp hmem).resolve_right hnew
    · rw [freshCode_outcome hcode, hrepeat]

end

section
variable {ctx : Context} {message : Schema.Message}

/-- Fields that each have code have it in a row if no member is used twice. -/
theorem fieldCodes_of_nodup {fields : List Schema.Field}
    (hfields : ∀ field ∈ fields, ∃ code,
      (fieldCode ctx message.fullName field).outcome = .ok code) :
    ∀ seen : List Ident, (seen ++ fields.flatMap memberIdents).Nodup →
      ∃ codes, (fieldCodes ctx message seen fields).outcome = .ok codes := by
  induction fields with
  | nil => exact fun _ _ => ⟨[], rfl⟩
  | cons field others ih =>
    intro seen h
    obtain ⟨⟨code, hcode⟩, hothers⟩ := List.forall_mem_cons.mp hfields
    rw [List.flatMap_cons, ← List.append_assoc] at h
    have hfresh := freshCode_of_nodup hcode (List.nodup_append'.mp h).1
    obtain ⟨codes, hcodes⟩ := ih hothers (seen ++ code.idents) ((fieldCode_idents hcode).1 ▸ h)
    rw [fieldCodes_cons]
    exact ⟨code :: codes,
      Reported.bind_eq_ok.mpr ⟨code, hfresh, Reported.map_eq_ok.mpr ⟨codes, hcodes, rfl⟩⟩⟩

/-- Otherwise the first field with a member that one before it has is the end. -/
theorem fieldCodes_of_not_nodup {fields : List Schema.Field}
    (hfields : ∀ field ∈ fields, ∃ code,
      (fieldCode ctx message.fullName field).outcome = .ok code) :
    ∀ {seen : List Ident}, seen.Nodup → ¬ (seen ++ fields.flatMap memberIdents).Nodup →
      ∃ before field after earlier member later, fields = before ++ field :: after ∧
        memberIdents field = earlier ++ member :: later ∧
        (seen ++ before.flatMap memberIdents ++ earlier).Nodup ∧
        member ∈ seen ++ before.flatMap memberIdents ∧
        (fieldCodes ctx message seen fields).outcome =
          .error (.failed (repeatedMember message.fullName field member.text)) := by
  induction fields with
  | nil => exact fun hseen h => absurd (by simpa using hseen) h
  | cons field others ih =>
    intro seen hseen h
    obtain ⟨⟨code, hcode⟩, hothers⟩ := List.forall_mem_cons.mp hfields
    by_cases hnew : (seen ++ memberIdents field).Nodup
    · have hfresh := freshCode_of_nodup hcode hnew
      have hidents := (fieldCode_idents hcode).1
      rw [List.flatMap_cons, ← List.append_assoc] at h
      obtain ⟨before, last, after, earlier, member, later, rfl, hmembers, hnodup, hmem, hend⟩ :=
        ih hothers hnew h
      refine ⟨field :: before, last, after, earlier, member, later, rfl, hmembers, ?_, ?_, ?_⟩
      · rwa [List.flatMap_cons, ← List.append_assoc]
      · rwa [List.flatMap_cons, ← List.append_assoc]
      · rw [fieldCodes_cons, Reported.bind_outcome, hfresh]
        exact (Reported.map_outcome _ _).trans (map_eq_error.mpr (hidents ▸ hend))
    · obtain ⟨earlier, member, later, hmembers, hnodup, hmem, hend⟩ :=
        freshCode_of_not_nodup hseen hcode hnew
      refine ⟨[], field, others, earlier, member, later, rfl, hmembers, ?_, ?_, ?_⟩
      · simpa using hnodup
      · simpa using hmem
      · rw [fieldCodes_cons]
        exact Reported.bind_eq_error.mpr (.inl hend)

end

/-! ## Messages -/

/-- Identifiers have different texts if they are different. -/
theorem nodup_map_text {idents : List Ident} (h : ∀ ident ∈ idents, ident.WellFormed) :
    (idents.map Ident.text).Nodup ↔ idents.Nodup := by
  refine ⟨List.Nodup.of_map _, fun hnodup => (List.nodup_map_iff_inj_on hnodup).mpr ?_⟩
  exact fun i hi j hj => (Ident.text_inj (h i hi) (h j hj)).mp

/-- The names of all members are those of all identifiers. -/
theorem flatMap_memberNames (fields : List Schema.Field) :
    fields.flatMap memberNames = (fields.flatMap memberIdents).map Ident.text :=
  List.map_flatMap.symm

/-- The identifiers of the members of several fields are well formed. -/
theorem flatMap_memberIdents_wellFormed (fields : List Schema.Field) :
    ∀ ident ∈ fields.flatMap memberIdents, ident.WellFormed := by
  intro ident h
  obtain ⟨field, -, hident⟩ := List.mem_flatMap.mp h
  exact memberIdents_wellFormed ident hident

/-- Fields have members of different names exactly if they have different members. -/
theorem nodup_memberNames (fields : List Schema.Field) :
    (fields.flatMap memberNames).Nodup ↔ (fields.flatMap memberIdents).Nodup := by
  rw [flatMap_memberNames, nodup_map_text (flatMap_memberIdents_wellFormed fields)]

section
variable {ctx : Context} {message : Schema.Message}

/-- The type of a message has the members of its fields. -/
theorem messageItems_types {items : List Item}
    (h : (messageItems ctx message).outcome = .ok items) : ∃ type codec,
      items.map Item.struct? =
        [some (type, message.fields.flatMap memberNames), some (codec, []), none] := by
  obtain ⟨ident, codec, codes, -, -, hcodes, rfl⟩ := messageItems_eq_ok h
  rw [← fieldCodes_members hcodes]
  exact ⟨ident.text, codec.text, rfl⟩

/-- A message whose fields have code, and no two members of one name, has code. -/
theorem messageItems_of_nodup (hname : IsTypeName message.name)
    (hfields : ∀ field ∈ message.fields, ∃ code,
      (fieldCode ctx message.fullName field).outcome = .ok code)
    (hnodup : (message.fields.flatMap memberNames).Nodup) :
    ∃ items, (messageItems ctx message).outcome = .ok items := by
  obtain ⟨ident, codec, heq⟩ := messageItems_eq ctx hname
  obtain ⟨codes, hcodes⟩ :=
    fieldCodes_of_nodup hfields [] ((nodup_memberNames message.fields).mp hnodup)
  rw [heq message rfl]
  exact ⟨_, Reported.map_eq_ok.mpr ⟨codes, hcodes, rfl⟩⟩

/-- Otherwise it fails at the first field that would use a name again. -/
theorem messageItems_of_not_nodup (hname : IsTypeName message.name)
    (hfields : ∀ field ∈ message.fields, ∃ code,
      (fieldCode ctx message.fullName field).outcome = .ok code)
    (hrepeat : ¬ (message.fields.flatMap memberNames).Nodup) :
    ∃ before field after earlier member later, message.fields = before ++ field :: after ∧
      memberNames field = earlier ++ member :: later ∧
      (before.flatMap memberNames ++ earlier).Nodup ∧ member ∈ before.flatMap memberNames ∧
      (messageItems ctx message).outcome =
        .error (.failed (repeatedMember message.fullName field member)) := by
  obtain ⟨ident, codec, heq⟩ := messageItems_eq ctx hname
  obtain ⟨before, field, after, earlier, member, later, hsplit, hmembers, hnodup, hmem, hend⟩ :=
    fieldCodes_of_not_nodup hfields List.nodup_nil (mt (nodup_memberNames _).mpr hrepeat)
  have hwell : ∀ ident ∈ before.flatMap memberIdents ++ earlier, ident.WellFormed := by
    intro ident h
    rcases List.mem_append.mp h with h | h
    · exact flatMap_memberIdents_wellFormed before ident h
    · exact memberIdents_wellFormed ident (hmembers ▸ List.mem_append_left _ h)
  refine ⟨before, field, after, earlier.map Ident.text, member.text, later.map Ident.text, hsplit,
    ?_, ?_, ?_, ?_⟩
  · rw [memberNames, hmembers, List.map_append, List.map_cons]
  · rw [flatMap_memberNames, ← List.map_append, nodup_map_text hwell]
    exact hnodup
  · rw [flatMap_memberNames]
    exact List.mem_map_of_mem hmem
  · rw [heq message rfl, Reported.map_outcome, map_eq_error]
    exact hend

/-- Where every field has code and the name of the message is that of a type and a codec, the
message has code exactly if no two members have one name, and these are then the members of its
type. If two have, the end is the first field with a member that one before it has, at the first
such member. Two fields that are no maps clash exactly if their words make the same word. -/
theorem messageItems_members (ctx : Context) (message : Schema.Message) :
    (IsTypeName message.name →
      (∀ field ∈ message.fields, ∃ code,
        (fieldCode ctx message.fullName field).outcome = .ok code) →
      ((∃ items, (messageItems ctx message).outcome = .ok items) ↔
        (message.fields.flatMap memberNames).Nodup) ∧
      (∀ items, (messageItems ctx message).outcome = .ok items →
        ∃ type codec members,
          items.map Item.struct? = [some (type, members), some (codec, []), none] ∧
          members = message.fields.flatMap memberNames ∧ members.Nodup) ∧
      (¬ (message.fields.flatMap memberNames).Nodup →
        ∃ before field after earlier member later, message.fields = before ++ field :: after ∧
          memberNames field = earlier ++ member :: later ∧
          (before.flatMap memberNames ++ earlier).Nodup ∧ member ∈ before.flatMap memberNames ∧
          (messageItems ctx message).outcome =
            .error (.failed (repeatedMember message.fullName field member)))) ∧
    ∀ a b i j, Naming.fieldIdent? a = some i → Naming.fieldIdent? b = some j →
      (i = j ↔ Naming.camelCase a = Naming.camelCase b) := by
  refine ⟨fun hname hfields => ?_, fun a b i j => Naming.fieldIdent?_eq_iff⟩
  have hnodup : ∀ items, (messageItems ctx message).outcome = .ok items →
      (message.fields.flatMap memberNames).Nodup := by
    intro items hitems
    by_contra hrepeat
    obtain ⟨_, _, _, _, _, _, -, -, -, -, hend⟩ :=
      messageItems_of_not_nodup hname hfields hrepeat
    rw [hitems] at hend
    cases hend
  refine ⟨⟨fun ⟨items, hitems⟩ => hnodup items hitems, messageItems_of_nodup hname hfields⟩,
    fun items hitems => ?_, messageItems_of_not_nodup hname hfields⟩
  obtain ⟨type, codec, hstructs⟩ := messageItems_types hitems
  exact ⟨type, codec, _, hstructs, rfl, hnodup items hitems⟩

end

/-! ## A map and a field beside it -/

/-- An order with a map of counts and a text. -/
def countOrder (text : String) : Schema.Message :=
  orderOf [{ valueField "count" 1 11 with label := .repeated, mapEntry := some ⟨9, 13, none⟩ },
    valueField text 2 9]

/-- The keys of the map are in a member of their own, which a text may not have. -/
theorem messageItems_members_count :
    (∃ items, (messageItems plainContext (countOrder "note")).outcome = .ok items) ∧
    ∃ before field after earlier member later,
      (countOrder "count_keys").fields = before ++ field :: after ∧
      memberNames field = earlier ++ member :: later ∧
      (before.flatMap memberNames ++ earlier).Nodup ∧ member ∈ before.flatMap memberNames ∧
      (messageItems plainContext (countOrder "count_keys")).outcome =
        .error (.failed (repeatedMember "shop.Order" field member)) := by
  have hname : IsTypeName "Order" := by decide
  have hcodes : ∀ text ∈ ["note", "count_keys"], (countOrder text).fields.all (fun field =>
      (fieldCode plainContext "shop.Order" field).outcome.toOption.isSome) = true := by
    decide
  have hfields : ∀ text ∈ ["note", "count_keys"], ∀ field ∈ (countOrder text).fields,
      ∃ code, (fieldCode plainContext "shop.Order" field).outcome = .ok code :=
    fun text htext field hfield =>
      toOption_isSome.mp (List.all_eq_true.mp (hcodes text htext) field hfield)
  obtain ⟨hiff, -⟩ :=
    (messageItems_members plainContext (countOrder "note")).1 hname (hfields _ (by simp))
  obtain ⟨-, -, hclash⟩ :=
    (messageItems_members plainContext (countOrder "count_keys")).1 hname (hfields _ (by simp))
  exact ⟨hiff.mpr (by decide), hclash (by decide)⟩

/-- A message whose name is that of no type. -/
def dashedMessage : Schema.Message := { orderOf [] with name := "a-b" }

/-- It has no code, although it has no fields that could clash. -/
theorem messageItems_members_dashed :
    (∀ field ∈ dashedMessage.fields, ∃ code,
      (fieldCode plainContext dashedMessage.fullName field).outcome = .ok code) ∧
    (dashedMessage.fields.flatMap memberNames).Nodup ∧
    (messageItems plainContext dashedMessage).outcome = .error (.notAnIdentifier "a-b") := by
  refine ⟨fun field h => absurd h List.not_mem_nil, List.nodup_nil, ?_⟩
  have hnone : Naming.messageIdent? dashedMessage.name = none := by decide
  rw [messageItems, hnone]
  rfl

end Wiregen.Emit
