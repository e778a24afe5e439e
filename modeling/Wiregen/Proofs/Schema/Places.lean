import Wiregen.Proofs.Schema.Comments
import Wiregen.Proofs.Schema.OfDescriptor

/-!
# Comments at their elements

An element of a file stands at a place: a message is reached from an outermost one through messages
in messages, and a field in such a message. The path of a place says the same in numbers, and every
element that is taken over has the comment at the path of its place (`ofDescriptor_docs`). As long
as all indices fit into the numbers of paths, no two places have the same path.
-/

namespace Wiregen.Schema

/-! ## Places -/

/-- Where an element stands in a file: the index of an outermost message, the indices that lead from
there to a message in it, and for a field its index in that message. -/
structure Place where
  outer : Nat
  inner : List Nat
  field : Option Nat
  deriving DecidableEq, Repr

/-- What the path of an element in a message goes on with behind that of the message. -/
def innerPath (inner : List Nat) (field : Option Nat) : List Int32 :=
  inner.flatMap (fun index => [3, Int32.ofNat index])
    ++ field.toList.flatMap fun index => [2, Int32.ofNat index]

/-- The path to a message within another goes through the list of nested messages. -/
theorem innerPath_cons (index : Nat) (inner : List Nat) (field : Option Nat) :
    innerPath (index :: inner) field = [3, Int32.ofNat index] ++ innerPath inner field := rfl

/-- The path to a field goes through its message and the list of fields. -/
theorem innerPath_some (inner : List Nat) (index : Nat) :
    innerPath inner (some index) = innerPath inner none ++ [2, Int32.ofNat index] := by
  simp [innerPath]

/-- The path that locations refer to the element at a place with. -/
def Place.path (place : Place) : List Int32 :=
  [4, Int32.ofNat place.outer] ++ innerPath place.inner place.field

/-- The message that a way through messages in messages leads to. -/
def descend {α : Type} (nested : α → List α) (messages : List α) (outer : Nat) :
    (inner : List Nat) → Option α
  | [] => messages[outer]?
  | index :: inner =>
    messages[outer]?.bind fun message => descend nested (nested message) index inner

/-- The name of the element at a place of a descriptor. -/
def nameAt? (file : Descriptor.File) (place : Place) : Option String :=
  (descend Descriptor.Message.nested file.messages place.outer place.inner).bind fun message =>
    match place.field with
    | none => some message.nameText
    | some index => message.fields[index]?.map (·.nameText)

/-- The name of the element at a place of a schema, and the comment that it has. -/
def docAt? (schema : File) (place : Place) : Option (String × Option String) :=
  (descend Message.nested schema.messages place.outer place.inner).bind fun message =>
    match place.field with
    | none => some (message.name, message.doc)
    | some index => message.fields[index]?.map fun f => (f.name, f.doc)

/-! ## Comments of elements -/

/-- A way that leads to a message leads to what that is taken over as at the path of the way. -/
theorem descend_at {s : Surroundings} (inner : List Nat) : ∀ {parent : String} {path : List Int32}
    {list : Int32} {ms : List Descriptor.Message} {ms' : List Message} (outer : Nat),
    messagesFrom s parent path list 0 ms = .ok ms' →
      Option.Rel (fun m m' => ∃ parent',
          message s parent' (path ++ [list, Int32.ofNat outer] ++ innerPath inner none) m = .ok m')
        (descend Descriptor.Message.nested ms outer inner)
        (descend Message.nested ms' outer inner) := by
  -- The induction is on the way, as the trees are entered only where it leads.
  induction inner with
  | nil =>
    intro parent path list ms ms' outer h
    have hrel := messagesFrom_at h outer
    rw [descend, descend]
    generalize ms[outer]? = m, ms'[outer]? = m' at hrel ⊢
    cases hrel with
    | none => exact .none
    | some hm => exact .some ⟨parent, by simpa [innerPath] using hm⟩
  | cons index inner ih =>
    intro parent path list ms ms' outer h
    have hrel := messagesFrom_at h outer
    rw [descend, descend, innerPath_cons, ← List.append_assoc]
    generalize ms[outer]? = m, ms'[outer]? = m' at hrel ⊢
    cases hrel with
    | none => exact .none
    | some hm => exact ih index (message_eq_ok hm).nested

/-- Every element that is taken over has the comment at the path of its place. -/
theorem docAt?_eq {file : Descriptor.File} {schema : File} (h : ofDescriptor file = .ok schema)
    (place : Place) : docAt? schema place =
      (nameAt? file place).map fun name => (name, (Comments.ofFile file).get? place.path) := by
  obtain ⟨messages, hmessages, h⟩ := bind_eq_ok.mp h
  cases h
  obtain ⟨outer, inner, field⟩ := place
  have hrel := descend_at inner outer hmessages
  unfold docAt? nameAt? Place.path
  dsimp only
  generalize descend Descriptor.Message.nested file.messages outer inner = m,
    descend Message.nested messages outer inner = m' at hrel ⊢
  cases hrel with
  | none => rfl
  | @some m m' hm =>
    obtain ⟨parent, hm⟩ := hm
    have hparts := message_eq_ok hm
    rw [Option.bind_some, Option.bind_some]
    cases field with
    | none =>
      dsimp only
      rw [hparts.name_eq, hparts.doc_eq]
      rfl
    | some index =>
      have hfield := fieldsFrom_at hparts.fields index
      dsimp only
      rw [innerPath_some, ← List.append_assoc]
      generalize m.fields[index]? = f, m'.fields[index]? = g at hfield ⊢
      cases hfield with
      | none => rfl
      | @some f g hg =>
        obtain ⟨-, -, hname, hdoc⟩ := field_eq_ok hg
        rw [Option.map_some, Option.map_some, Option.map_some, hname, hdoc]
        rfl

/-! ## Distinct places -/

/-- A file none of whose lists has more elements than paths have numbers for. -/
def FewElements (file : Descriptor.File) : Prop :=
  file.messages.length < 2 ^ 31 ∧ ∀ d ∈ declarations file,
    d.message.fields.length < 2 ^ 31 ∧ d.message.nested.length < 2 ^ 31

/-- A place all of whose indices are numbers of paths. -/
structure Place.IsSmall (place : Place) : Prop where
  outer_lt : place.outer < 2 ^ 31
  inner_lt : ∀ index ∈ place.inner, index < 2 ^ 31
  field_lt : ∀ index ∈ place.field, index < 2 ^ 31

/-- Indices that are numbers of paths are told apart by them. -/
theorem ofNat_inj {i j : Nat} (hi : i < 2 ^ 31) (hj : j < 2 ^ 31)
    (h : Int32.ofNat i = Int32.ofNat j) : i = j := by
  have hint := congrArg Int32.toInt h
  rw [Int32.toInt_ofNat_of_lt hi, Int32.toInt_ofNat_of_lt hj] at hint
  exact Int.ofNat.inj hint

/-- A way that ends is not one that goes on, even if it ends at a field. -/
theorem innerPath_nil_ne {field field' : Option Nat} {index : Nat} {inner : List Nat} :
    innerPath [] field ≠ innerPath (index :: inner) field' := by
  intro h
  cases field with
  | none => cases h
  | some k =>
    -- Messages list their fields under one number and the messages in them under another.
    exact absurd (List.cons.inj h).1 (by decide)

/-- What a path goes on with says where it leads to. -/
theorem innerPath_inj {inner inner' : List Nat} {field field' : Option Nat}
    (hinner : ∀ index ∈ inner, index < 2 ^ 31) (hinner' : ∀ index ∈ inner', index < 2 ^ 31)
    (hfield : ∀ index ∈ field, index < 2 ^ 31) (hfield' : ∀ index ∈ field', index < 2 ^ 31)
    (h : innerPath inner field = innerPath inner' field') : inner = inner' ∧ field = field' := by
  induction inner generalizing inner' with
  | nil =>
    cases inner' with
    | nil =>
      cases field with
      | none =>
        cases field' with
        | none => exact ⟨rfl, rfl⟩
        | some k' => cases h
      | some k =>
        cases field' with
        | none => cases h
        | some k' =>
          have hk : Int32.ofNat k = Int32.ofNat k' := by simpa [innerPath] using h
          rw [ofNat_inj (hfield k rfl) (hfield' k' rfl) hk]
          exact ⟨rfl, rfl⟩
    | cons j' inner' => exact absurd h innerPath_nil_ne
  | cons j inner ih =>
    cases inner' with
    | nil => exact absurd h.symm innerPath_nil_ne
    | cons j' inner' =>
      obtain ⟨hj, hinner⟩ := List.forall_mem_cons.mp hinner
      obtain ⟨hj', hinner'⟩ := List.forall_mem_cons.mp hinner'
      rw [innerPath_cons, innerPath_cons] at h
      obtain ⟨-, htail⟩ := List.cons.inj h
      obtain ⟨hindex, hrest⟩ := List.cons.inj htail
      obtain ⟨rfl, rfl⟩ := ih hinner hinner' hrest
      rw [ofNat_inj hj hj' hindex]
      exact ⟨rfl, rfl⟩

/-- Places with small indices have different paths. -/
theorem Place.path_inj {p q : Place} (hp : p.IsSmall) (hq : q.IsSmall) (h : p.path = q.path) :
    p = q := by
  obtain ⟨-, htail⟩ := List.cons.inj h
  obtain ⟨houter, hrest⟩ := List.cons.inj htail
  obtain ⟨hinner, hfield⟩ :=
    innerPath_inj hp.inner_lt hq.inner_lt hp.field_lt hq.field_lt hrest
  cases p
  cases q
  rw [Place.mk.injEq]
  exact ⟨ofNat_inj hp.outer_lt hq.outer_lt houter, hinner, hfield⟩

/-- What is declared in a message is declared in the list that it is in. -/
theorem declared_subset (parent : String) {messages : List Descriptor.Message}
    {m : Descriptor.Message} (h : m ∈ messages) :
    declared parent m ⊆ declaredIn parent messages := by
  induction messages with
  | nil => cases h
  | cons first others ih =>
    rw [declaredIn]
    rcases List.mem_cons.mp h with rfl | h
    · exact List.subset_append_left _ _
    · exact List.Subset.trans (ih h) (List.subset_append_right _ _)

/-- A message is declared before those in it, which bear its name in front of theirs. -/
theorem declared_eq (parent : String) (m : Descriptor.Message) :
    declared parent m = ⟨qualify parent m.nameText, m⟩ ::
      declaredIn (qualify parent m.nameText) m.nested := by
  cases m
  rfl

/-- Where lists are not longer than paths have numbers for, so are the ways through them. -/
theorem descend_lt {inner : List Nat} {m : Descriptor.Message} : ∀ {parent : String}
    {messages : List Descriptor.Message} {outer : Nat},
    (∀ d ∈ declaredIn parent messages,
      d.message.fields.length < 2 ^ 31 ∧ d.message.nested.length < 2 ^ 31) →
    messages.length < 2 ^ 31 →
    descend Descriptor.Message.nested messages outer inner = some m →
      outer < 2 ^ 31 ∧ (∀ index ∈ inner, index < 2 ^ 31) ∧ m.fields.length < 2 ^ 31 := by
  induction inner with
  | nil =>
    intro parent messages outer hlists hlength h
    have hat : messages[outer]? = some m := h
    have hself := declared_subset parent (List.mem_of_getElem? hat)
    rw [declared_eq] at hself
    have hfields := (hlists _ (hself List.mem_cons_self)).1
    have hlt := (List.getElem?_eq_some_iff.mp hat).1
    exact ⟨hlt.trans hlength, List.forall_mem_nil _, hfields⟩
  | cons index inner ih =>
    intro parent messages outer hlists hlength h
    obtain ⟨first, hat, h⟩ := Option.bind_eq_some_iff.mp h
    have hself := declared_subset parent (List.mem_of_getElem? hat)
    rw [declared_eq] at hself
    have hnested := (hlists _ (hself List.mem_cons_self)).2
    have hlt := (List.getElem?_eq_some_iff.mp hat).1
    obtain ⟨hindex, hinner, hfields⟩ :=
      ih (fun d hd => hlists d (hself (List.mem_cons_of_mem _ hd))) hnested h
    exact ⟨hlt.trans hlength, List.forall_mem_cons.mpr ⟨hindex, hinner⟩, hfields⟩

/-- An element of a file without long lists stands at a place whose indices are numbers of paths. -/
theorem FewElements.isSmall {file : Descriptor.File} (hfew : FewElements file) {place : Place}
    (h : (nameAt? file place).isSome) : place.IsSmall := by
  obtain ⟨name, h⟩ := Option.isSome_iff_exists.mp h
  obtain ⟨m, hm, h⟩ := Option.bind_eq_some_iff.mp h
  obtain ⟨houter, hinner, hfields⟩ := descend_lt hfew.2 hfew.1 hm
  refine ⟨houter, hinner, fun index hindex => ?_⟩
  rw [Option.mem_def] at hindex
  rw [hindex] at h
  obtain ⟨f, hf, -⟩ := Option.map_eq_some_iff.mp h
  exact (List.getElem?_eq_some_iff.mp hf).1.trans hfields

/-! ## Comments of files -/

/-- Every element that is taken over has the comment at the path of its place, no two elements of a
file without long lists have one path, and the comment at a path is that of the last location that
has the path and a comment that is not blank. -/
theorem ofDescriptor_docs (file : Descriptor.File) {schema : File}
    (hschema : ofDescriptor file = .ok schema) (hfew : FewElements file) :
    (∀ place, docAt? schema place =
      (nameAt? file place).map fun name => (name, (Comments.ofFile file).get? place.path)) ∧
    (∀ p q, (nameAt? file p).isSome → (nameAt? file q).isSome → p ≠ q → p.path ≠ q.path) ∧
    ∀ path, path ≠ [] → (Comments.ofFile file).get? path =
      ((file.info.getD []).filter (tellsOf path)).getLast?.map fun location =>
        String.ofList (cleanComment (commentText location)) := by
  refine ⟨docAt?_eq hschema, fun p q hp hq hne hpath => hne ?_, fun path => get?_ofFile file⟩
  exact Place.path_inj (hfew.isSmall hp) (hfew.isSmall hq) hpath

/-- A file with comments on a field of a message in a message: a blank one behind one that is not,
and one on the message beside it. -/
def shelfFile : Descriptor.File :=
  { messages := [{
      name := some "Stock"
      nested := [
        { name := some "Note" },
        { name := some "Shelf"
          fields := [
            { name := some "row", number := some 1, type := some 13 },
            { name := some "id", number := some 2, type := some 4 }] }] }]
    info := some [
      { path := [4, 0, 3, 1, 2, 1], leading := some "  Not reused. \n" },
      { path := [4, 0, 3, 1, 2, 1], leading := some " \n", trailing := some "Unread" },
      { path := [4, 0, 3, 0], trailing := some "Free text." }] }

/-- The comment that is not blank is that of the field, and the other that of the other message. -/
theorem ofDescriptor_docs_shelf : ∃ schema, ofDescriptor shelfFile = .ok schema ∧
    FewElements shelfFile ∧
    docAt? schema ⟨0, [1], some 1⟩ = some ("id", some "Not reused.") ∧
    docAt? schema ⟨0, [0], none⟩ = some ("Note", some "Free text.") ∧
    docAt? schema ⟨0, [1], none⟩ = some ("Shelf", none) := by
  have hok : (ofDescriptor shelfFile).toOption.isSome := by decide +kernel
  obtain ⟨schema, hschema⟩ := toOption_isSome.mp hok
  have hfew : FewElements shelfFile := ⟨by decide, by decide⟩
  have hdocs := (ofDescriptor_docs shelfFile hschema hfew).1
  refine ⟨schema, hschema, hfew, ?_, ?_, ?_⟩
  · rw [hdocs]
    decide +kernel
  · rw [hdocs]
    decide +kernel
  · rw [hdocs]
    decide +kernel

end Wiregen.Schema
