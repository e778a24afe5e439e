import Wiregen.Proofs.Emit.Keys
import Wiregen.Proofs.Naming
import Wiregen.Target.Spelling

/-!
# Fields that are left out

A field whose type has no codec leaves nothing behind but a line of documentation and a report. The
code of a message is that of the message without such fields, with one line for each of them behind
the documentation, and a message that fails does so at a field that it has without them as well
(`messageItems_omitted`). Comments may be off: the lines are not comments.
-/

namespace Wiregen.Emit

open Naming (IsTypeName)
open Target (Attribute Ident Item Member docTokens words)

/-! ## Omissions -/

/-- Why a field is left out, if it is: its type has no codec or, for a map field, that of its keys
or of its values. -/
def omission? (field : Schema.Field) : Option String :=
  match shapeOf field with
  | .error (.failed (.unsupportedFieldType code)) =>
    some (Failure.unsupportedFieldType code).message
  | _ => none

/-- The message without the fields that are left out. -/
def withoutOmitted (message : Schema.Message) : Schema.Message :=
  { message with fields := message.fields.filter fun field => (omission? field).isNone }

/-- The lines of documentation for the fields that are left out, in their order. -/
def markersOf (fields : List Schema.Field) : List String :=
  fields.filterMap fun field => (omission? field).map (skipMarker field)

/-- The reports of the fields of the message `owner` that are left out, in their order. -/
def reportsOf (owner : String) (fields : List Schema.Field) : List Diagnostic :=
  fields.filterMap fun field => (omission? field).map (Diagnostic.mk owner field.name)

/-! ## The code of a field -/

section
variable {ctx : Context} {owner : String} {seen : List Ident} {field : Schema.Field}

/-- A field that is left out is reported, and its code is a marker for the same reason. -/
theorem fieldCode_of_omission (ctx : Context) (owner : String) {reason : String}
    (h : omission? field = some reason) :
    fieldCode ctx owner field =
      ⟨[⟨owner, field.name, reason⟩], .ok { marker := some (skipMarker field reason) }⟩ := by
  unfold omission? at h
  split at h
  next code hshape =>
    cases h
    rw [fieldCode, hshape]
    rfl
  next => cases h

/-- Any other field is not reported. -/
theorem fieldCode_diagnostics (ctx : Context) (owner : String) (h : omission? field = none) :
    (fieldCode ctx owner field).diagnostics = [] := by
  unfold omission? at h
  unfold fieldCode
  split at h
  next => cases h
  next hne =>
    split
    next => rfl
    next code hshape => exact absurd hshape (hne code)
    next => rfl

/-- The code of any other field has no marker. -/
theorem fieldCode_marker (h : omission? field = none) {code : FieldCode}
    (hcode : (fieldCode ctx owner field).outcome = .ok code) : code.marker = none := by
  rcases fieldCode_eq_ok hcode with ⟨shape, -, hcode⟩ | ⟨type, marker, hshape, -⟩
  · cases codeOf_isCodeBy hcode <;> rfl
  · rw [omission?, hshape] at h
    cases h

/-- A field that is left out has no members, so none of them can be there already. -/
theorem freshCode_of_omission (ctx : Context) (owner : String) (seen : List Ident)
    {reason : String} (h : omission? field = some reason) :
    freshCode ctx owner seen field =
      ⟨[⟨owner, field.name, reason⟩], .ok { marker := some (skipMarker field reason) }⟩ := by
  rw [freshCode, fieldCode_of_omission ctx owner h]
  rfl

/-- Any other field is not reported, whether its members are there already or not. -/
theorem freshCode_diagnostics (h : omission? field = none) :
    (freshCode ctx owner seen field).diagnostics = [] := by
  have hfield := fieldCode_diagnostics ctx owner h
  cases hcode : (fieldCode ctx owner field).outcome with
  | error halt => rw [freshCode, Reported.bind_diagnostics_of_error hcode, hfield]
  | ok code =>
    rw [freshCode, Reported.bind_diagnostics hcode, hfield]
    split <;> rfl

end

/-! ## The code of fields in a row -/

section
variable {ctx : Context} {message : Schema.Message}

/-- The code of a field in front of others is followed by theirs. -/
theorem fieldCodes_outcome_cons {seen : List Ident} {field : Schema.Field} {code : FieldCode}
    (h : (freshCode ctx message.fullName seen field).outcome = .ok code)
    (others : List Schema.Field) :
    (fieldCodes ctx message seen (field :: others)).outcome =
      (fieldCodes ctx message (seen ++ code.idents) others).outcome.map (code :: ·) := by
  rw [fieldCodes_cons, Reported.bind_outcome, h]
  exact Reported.map_outcome _ _

/-- A field that is left out has a marker in front of the code of the others. -/
theorem fieldCodes_outcome_of_omission {seen : List Ident} {field : Schema.Field} {reason : String}
    (h : omission? field = some reason) (others : List Schema.Field) :
    (fieldCodes ctx message seen (field :: others)).outcome =
      (fieldCodes ctx message seen others).outcome.map
        ({ marker := some (skipMarker field reason) } :: ·) := by
  have hfresh := congrArg Reported.outcome (freshCode_of_omission ctx message.fullName seen h)
  rw [fieldCodes_outcome_cons hfresh, List.append_nil]

/-- The code of fields without those that are left out is their code without the markers. -/
theorem fieldCodes_filter (fields : List Schema.Field) : ∀ seen : List Ident,
    (fieldCodes ctx message seen (fields.filter fun field => (omission? field).isNone)).outcome =
      (fieldCodes ctx message seen fields).outcome.map
        (List.filter fun code => code.marker.isNone) := by
  induction fields with
  | nil => exact fun _ => rfl
  | cons field others ih =>
    intro seen
    cases homission : omission? field with
    | some reason =>
      rw [List.filter_cons_of_neg (by simp [homission]), ih,
        fieldCodes_outcome_of_omission homission]
      cases (fieldCodes ctx message seen others).outcome <;> rfl
    | none =>
      rw [List.filter_cons_of_pos (by simp [homission])]
      cases hcode : (freshCode ctx message.fullName seen field).outcome with
      | error halt =>
        rw [fieldCodes_cons, fieldCodes_cons, Reported.bind_outcome, Reported.bind_outcome, hcode]
        rfl
      | ok code =>
        have hmarker := fieldCode_marker homission (freshCode_eq_ok hcode)
        rw [fieldCodes_outcome_cons hcode, fieldCodes_outcome_cons hcode, ih]
        cases (fieldCodes ctx message (seen ++ code.idents) others).outcome with
        | error halt => rfl
        | ok codes => simp [Except.map, hmarker]

/-- What is reported of a field in front of others. -/
theorem fieldCodes_diagnostics_cons {seen : List Ident} {field : Schema.Field}
    {others : List Schema.Field} {code : FieldCode}
    (h : (freshCode ctx message.fullName seen field).outcome = .ok code) :
    (fieldCodes ctx message seen (field :: others)).diagnostics =
      reportsOf message.fullName [field] ++
        (fieldCodes ctx message (seen ++ code.idents) others).diagnostics := by
  rw [fieldCodes_cons, Reported.bind_diagnostics h, Reported.map_diagnostics]
  cases homission : omission? field with
  | some reason =>
    rw [freshCode_of_omission _ _ _ homission]
    simp [reportsOf, homission]
  | none =>
    rw [freshCode_diagnostics homission]
    simp [reportsOf, homission]

/-- The first field is reported before the others. -/
theorem reportsOf_cons (owner : String) (field : Schema.Field) (others : List Schema.Field) :
    reportsOf owner (field :: others) = reportsOf owner [field] ++ reportsOf owner others :=
  List.filterMap_append (l := [field])

/-- Where there is code for all fields, those that are left out are reported, and no others. -/
theorem fieldCodes_diagnostics {fields : List Schema.Field} :
    ∀ {seen : List Ident} {codes : List FieldCode},
      (fieldCodes ctx message seen fields).outcome = .ok codes →
        (fieldCodes ctx message seen fields).diagnostics = reportsOf message.fullName fields := by
  induction fields with
  | nil => exact fun _ => rfl
  | cons field others ih =>
    intro seen codes h
    rw [fieldCodes_cons] at h
    obtain ⟨code, hcode, h⟩ := Reported.bind_eq_ok.mp h
    obtain ⟨codes', hcodes, -⟩ := Reported.map_eq_ok.mp h
    rw [fieldCodes_diagnostics_cons hcode, ih hcodes, ← reportsOf_cons]

/-- Where there is not, the work ends at a field that is not left out, and those before it that are
left out are reported. -/
theorem fieldCodes_eq_error {fields : List Schema.Field} {halt : Halt} :
    ∀ {seen : List Ident}, (fieldCodes ctx message seen fields).outcome = .error halt →
      ∃ before field after, fields = before ++ field :: after ∧ omission? field = none ∧
        (∃ codes, (fieldCodes ctx message seen before).outcome = .ok codes) ∧
        (fieldCodes ctx message seen (before ++ [field])).outcome = .error halt ∧
        (fieldCodes ctx message seen fields).diagnostics = reportsOf message.fullName before := by
  induction fields with
  | nil => exact fun h => nomatch h
  | cons field others ih =>
    intro seen h
    rw [fieldCodes_cons] at h
    rcases Reported.bind_eq_error.mp h with hfresh | ⟨code, hcode, h⟩
    · cases homission : omission? field with
      | some reason =>
        rw [freshCode_of_omission _ _ _ homission] at hfresh
        cases hfresh
      | none =>
        refine ⟨[], field, others, rfl, homission, ⟨[], rfl⟩, ?_, ?_⟩
        · rw [List.nil_append, fieldCodes_cons]
          exact Reported.bind_eq_error.mpr (.inl hfresh)
        · rw [fieldCodes_cons, Reported.bind_diagnostics_of_error hfresh,
            freshCode_diagnostics homission]
          rfl
    · rw [Reported.map_outcome, map_eq_error] at h
      obtain ⟨before, last, after, rfl, homission, ⟨codes, hcodes⟩, hlast, hreports⟩ := ih h
      refine ⟨field :: before, last, after, rfl, homission, ⟨code :: codes, ?_⟩, ?_, ?_⟩
      · rw [fieldCodes_cons]
        exact Reported.bind_eq_ok.mpr ⟨code, hcode, Reported.map_eq_ok.mpr ⟨codes, hcodes, rfl⟩⟩
      · rw [List.cons_append, fieldCodes_cons]
        refine Reported.bind_eq_error.mpr (.inr ⟨code, hcode, ?_⟩)
        rw [Reported.map_outcome, map_eq_error, hlast]
      · rw [fieldCodes_diagnostics_cons hcode, hreports, ← reportsOf_cons]

end

/-! ## Items with markers -/

section
variable {ctx : Context} {message : Schema.Message}

/-- The code of a field that is left out is its marker. -/
theorem fieldCode_eq_of_omission {owner : String} {field : Schema.Field} {reason : String}
    {code : FieldCode} (homission : omission? field = some reason)
    (h : (fieldCode ctx owner field).outcome = .ok code) :
    { marker := some (skipMarker field reason) } = code := by
  rw [fieldCode_of_omission _ _ homission] at h
  exact Except.ok.inj h

/-- The code of a field has a marker only if it has nothing else. -/
theorem fieldCode_eq_marker {owner : String} {field : Schema.Field} {code : FieldCode}
    (h : (fieldCode ctx owner field).outcome = .ok code) :
    code.marker = none ∨ ∃ line, { marker := some line } = code := by
  cases homission : omission? field with
  | none => exact .inl (fieldCode_marker homission h)
  | some reason => exact .inr ⟨_, fieldCode_eq_of_omission homission h⟩

/-- So it is with the code of each of several fields. -/
theorem fieldCodes_eq_marker {seen : List Ident} {fields : List Schema.Field}
    {codes : List FieldCode} (h : (fieldCodes ctx message seen fields).outcome = .ok codes) :
    ∀ code ∈ codes, code.marker = none ∨ ∃ line, { marker := some line } = code := by
  have hcodes := fieldCodes_eq_ok h
  clear h
  induction hcodes with
  | nil => exact List.forall_mem_nil _
  | cons hcode _ ih => exact List.forall_mem_cons.mpr ⟨fieldCode_eq_marker hcode, ih⟩

/-- The marker of a field says why it is left out. -/
theorem fieldCode_marker_eq {owner : String} (field : Schema.Field) (code : FieldCode)
    (h : (fieldCode ctx owner field).outcome = .ok code) :
    code.marker = (omission? field).map (skipMarker field) := by
  cases homission : omission? field with
  | none => exact fieldCode_marker homission h
  | some reason =>
    rw [← fieldCode_eq_of_omission homission h]
    rfl

/-- The markers in the code of fields are those of the fields that are left out. -/
theorem fieldCodes_markers {seen : List Ident} {fields : List Schema.Field} {codes : List FieldCode}
    (h : (fieldCodes ctx message seen fields).outcome = .ok codes) :
    codes.filterMap (·.marker) = markersOf fields := by
  have hmarkers := congrArg (List.filterMap id) (fieldCodes_map h fieldCode_marker_eq)
  rwa [List.filterMap_map, List.filterMap_map] at hmarkers

/-- Code without markers has all that the code has besides them. -/
theorem flatMap_filter_markers {α : Type} {part : FieldCode → List α}
    (hpart : ∀ line, part { marker := some line } = []) {codes : List FieldCode}
    (h : ∀ code ∈ codes, code.marker = none ∨ ∃ line, { marker := some line } = code) :
    (codes.filter (·.marker.isNone)).flatMap part = codes.flatMap part := by
  refine Text.flatMap_filter fun code hcode hmarker => ?_
  rcases h code hcode with hnone | ⟨line, rfl⟩
  · exact absurd (Option.isNone_iff_eq_none.mpr hnone) hmarker
  · exact hpart line

/-- The markers of code stand behind the documentation, and nowhere else. -/
theorem itemsOf_markers (ident codec : Ident) {codes : List FieldCode}
    (h : ∀ code ∈ codes, code.marker = none ∨ ∃ line, { marker := some line } = code) :
    itemsOf ctx message ident codec codes =
      (itemsOf ctx (withoutOmitted message) ident codec (codes.filter (·.marker.isNone))).map
        (Item.document (codes.filterMap (·.marker))) := by
  have hmarkers : (codes.filter (·.marker.isNone)).filterMap (·.marker) = [] := by
    simp [List.filterMap_eq_nil_iff]
  simp [itemsOf, Item.document, withoutOmitted, hmarkers, flatMap_filter_markers _ h]

end

/-! ## The code of a message -/

section
variable {ctx : Context} {message : Schema.Message}

/-- The code of a message is that without the fields that are left out, with their markers. -/
theorem messageItems_outcome (ctx : Context) (hname : IsTypeName message.name) :
    (messageItems ctx message).outcome =
      (messageItems ctx (withoutOmitted message)).outcome.map
        (List.map (Item.document (markersOf message.fields))) := by
  obtain ⟨ident, codec, heq⟩ := messageItems_eq ctx hname
  have hkept :
      (fieldCodes ctx (withoutOmitted message) [] (withoutOmitted message).fields).outcome =
        (fieldCodes ctx message [] message.fields).outcome.map
          (List.filter fun code => code.marker.isNone) := by
    rw [← fieldCodes_filter]
    exact congrArg Reported.outcome (fieldCodes_withFields ctx message _ _ _)
  rw [heq message rfl, heq (withoutOmitted message) rfl, Reported.map_outcome,
    Reported.map_outcome, hkept]
  cases hcodes : (fieldCodes ctx message [] message.fields).outcome with
  | error halt => rfl
  | ok codes =>
    rw [← fieldCodes_markers hcodes]
    exact congrArg Except.ok (itemsOf_markers ident codec (fieldCodes_eq_marker hcodes))

/-- A message begins with the type that its fields are documented at, and nothing else in it has
documentation to put lines behind. -/
theorem messageItems_struct {items : List Item}
    (h : (messageItems ctx message).outcome = .ok items) : ∃ name members others,
      items = .struct (docLines ctx message.doc ++ markersOf message.fields) typeAttributes name
        members :: others ∧ ∀ lines, others.map (Item.document lines) = others := by
  obtain ⟨ident, codec, codes, -, -, hcodes, rfl⟩ := messageItems_eq_ok h
  rw [← fieldCodes_markers hcodes]
  exact ⟨_, _, _, rfl, fun lines => rfl⟩

/-- Where no field is left out there is no marker. -/
theorem markersOf_withoutOmitted : markersOf (withoutOmitted message).fields = [] := by
  refine List.filterMap_eq_nil_iff.mpr fun field hfield => ?_
  rw [Option.isNone_iff_eq_none.mp (List.mem_filter.mp hfield).2, Option.map_none]

/-- Lines for the fields that are left out stand between the documentation of a message and the
attributes of its type. -/
theorem messageItems_tokens {items : List Item}
    (h : (messageItems ctx (withoutOmitted message)).outcome = .ok items) (lines : List String) :
    ∃ rest,
      items.flatMap Item.tokens = (docLines ctx message.doc).flatMap docTokens ++
        (typeAttributes.flatMap Attribute.tokens ++ rest) ∧
      (items.map (Item.document lines)).flatMap Item.tokens =
        (docLines ctx message.doc).flatMap docTokens ++ lines.flatMap docTokens ++
          (typeAttributes.flatMap Attribute.tokens ++ rest) := by
  obtain ⟨name, members, others, rfl, hothers⟩ := messageItems_struct h
  rw [markersOf_withoutOmitted, List.append_nil]
  refine ⟨words ["pub", "struct", name] ++ [.group .braces (members.flatMap Member.tokens)] ++
    others.flatMap Item.tokens, ?_, ?_⟩
  · simp [Item.tokens, withoutOmitted]
  · simp [Item.tokens, Item.document, withoutOmitted, hothers]

/-- A message whose type and codec have names fails at the first of its fields that there is no code
for, and reports what is left out before that. -/
theorem messageItems_eq_error (hname : IsTypeName message.name) {halt : Halt}
    (h : (messageItems ctx message).outcome = .error halt) :
    ∃ before field after, message.fields = before ++ field :: after ∧ omission? field = none ∧
      (∃ items, (messageItems ctx { message with fields := before }).outcome = .ok items) ∧
      (messageItems ctx { message with fields := before ++ [field] }).outcome = .error halt ∧
      (messageItems ctx message).diagnostics = reportsOf message.fullName before := by
  obtain ⟨ident, codec, heq⟩ := messageItems_eq ctx hname
  have hfields : ∀ fields, (messageItems ctx { message with fields }).outcome =
      (fieldCodes ctx message [] fields).outcome.map
        (itemsOf ctx { message with fields } ident codec) := by
    intro fields
    rw [heq { message with fields } rfl, Reported.map_outcome, fieldCodes_withFields]
  rw [heq message rfl, Reported.map_outcome, map_eq_error] at h
  obtain ⟨before, field, after, hsplit, homission, ⟨codes, hcodes⟩, hlast, hreports⟩ :=
    fieldCodes_eq_error h
  refine ⟨before, field, after, hsplit, homission, ?_, ?_, ?_⟩
  · exact ⟨_, (hfields before).trans (map_eq_ok.mpr ⟨codes, hcodes, rfl⟩)⟩
  · rw [hfields, map_eq_error, hlast]
  · rw [heq message rfl, Reported.map_diagnostics, hreports]

/-- Fields of types without a codec change nothing of a message but its documentation: they put
lines behind it, in their order, each field is reported with the reason that its line has, and
whether the message has code does not depend on them, nor does the field at which it has none. -/
theorem messageItems_omitted (ctx : Context) (message : Schema.Message)
    (hname : IsTypeName message.name) :
    (messageItems ctx message).outcome =
      (messageItems ctx (withoutOmitted message)).outcome.map
        (List.map (Item.document (markersOf message.fields))) ∧
    (∀ items, (messageItems ctx (withoutOmitted message)).outcome = .ok items →
      (messageItems ctx message).diagnostics = reportsOf message.fullName message.fields ∧
      ∃ rest,
        items.flatMap Item.tokens = (docLines ctx message.doc).flatMap docTokens ++
          (typeAttributes.flatMap Attribute.tokens ++ rest) ∧
        (items.map (Item.document (markersOf message.fields))).flatMap Item.tokens =
          (docLines ctx message.doc).flatMap docTokens ++
            (markersOf message.fields).flatMap docTokens ++
              (typeAttributes.flatMap Attribute.tokens ++ rest)) ∧
    ∀ halt, (messageItems ctx message).outcome = .error halt →
      ∃ before field after, message.fields = before ++ field :: after ∧ omission? field = none ∧
        (∃ items, (messageItems ctx { message with fields := before }).outcome = .ok items) ∧
        (messageItems ctx { message with fields := before ++ [field] }).outcome = .error halt ∧
        (messageItems ctx message).diagnostics = reportsOf message.fullName before := by
  have houtcome := messageItems_outcome ctx hname
  refine ⟨houtcome, fun items hitems => ⟨?_, messageItems_tokens hitems _⟩,
    fun halt => messageItems_eq_error hname⟩
  obtain ⟨ident, codec, heq⟩ := messageItems_eq ctx hname
  rw [hitems] at houtcome
  rw [heq message rfl] at houtcome ⊢
  obtain ⟨codes, hcodes, -⟩ := Reported.map_eq_ok.mp houtcome
  rw [Reported.map_diagnostics, fieldCodes_diagnostics hcodes]

end

/-! ## Groups in a message -/

/-- An order with a group between a number and a text. -/
def groupOrder : Schema.Message :=
  orderOf [valueField "id" 1 4, valueField "old" 2 10, valueField "note" 3 9]

/-- An order with a reference to nothing between two groups. -/
def orphanOrder : Schema.Message :=
  orderOf [valueField "old" 1 10, valueField "parent" 2 11, valueField "older" 3 10]

/-- The group is left out, with a line although comments are off; the reference to nothing is the
end, behind the report of the first group. -/
theorem messageItems_omitted_group :
    (∃ items,
      (messageItems plainContext (withoutOmitted groupOrder)).outcome = .ok items ∧
      (messageItems plainContext groupOrder).outcome = .ok (items.map (Item.document
        [" protocodec: field `old` (2) skipped: unsupported field type code 10"])) ∧
      (messageItems plainContext groupOrder).diagnostics =
        [⟨"shop.Order", "old", "unsupported field type code 10"⟩]) ∧
    ∃ halt, (messageItems plainContext orphanOrder).outcome = .error halt ∧
      ∃ before field after, orphanOrder.fields = before ++ field :: after ∧
        omission? field = none ∧
        (messageItems plainContext orphanOrder).diagnostics = reportsOf "shop.Order" before := by
  have hname : IsTypeName "Order" := by decide
  constructor
  · have hmarkers : markersOf groupOrder.fields =
        [" protocodec: field `old` (2) skipped: unsupported field type code 10"] := by
      decide
    have hreports : reportsOf groupOrder.fullName groupOrder.fields =
        [⟨"shop.Order", "old", "unsupported field type code 10"⟩] := by
      decide
    have hsome :
        (messageItems plainContext (withoutOmitted groupOrder)).outcome.toOption.isSome := by
      decide
    obtain ⟨items, hitems⟩ := toOption_isSome.mp hsome
    obtain ⟨houtcome, hok, -⟩ := messageItems_omitted plainContext groupOrder hname
    rw [hitems, hmarkers] at houtcome
    exact ⟨items, hitems, houtcome, hreports ▸ (hok items hitems).1⟩
  · have hnone : (messageItems plainContext orphanOrder).outcome.toOption.isNone := by
      decide
    obtain ⟨-, -, herror⟩ := messageItems_omitted plainContext orphanOrder hname
    cases houtcome : (messageItems plainContext orphanOrder).outcome with
    | ok items => simp [houtcome, Except.toOption] at hnone
    | error halt =>
      obtain ⟨before, field, after, hfields, homission, -, -, hreports⟩ := herror halt houtcome
      exact ⟨halt, rfl, before, field, after, hfields, homission, hreports⟩

end Wiregen.Emit
