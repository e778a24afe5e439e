import Mathlib.Algebra.Group.Nat.Defs
import Wiregen.Failure
import Wiregen.Schema.OfDescriptor

/-!
# Schemas of accepted descriptors

What holds of every message of a schema that a descriptor is taken over as. The elements of a list
are taken over one for one (`rel_getElem?`). Each message comes from one of the descriptor
(`ofDescriptor_source`), so its fields have numbers that a key has room for (`ofDescriptor_inRange`)
and its full name ends with its local name (`ofDescriptor_fullName`).
-/

namespace Wiregen.Schema

/-- A field with a number that fields may have. -/
def Field.InRange (f : Field) : Prop := 1 ≤ f.number ∧ f.number ≤ maxFieldNumber

instance (f : Field) : Decidable f.InRange := inferInstanceAs (Decidable (_ ∧ _))

/-- A number that fields may have leaves room for a wire type. -/
theorem Field.InRange.toNat_lt {f : Field} (h : f.InRange) : f.number.toUInt32.toNat < 2 ^ 29 := by
  obtain ⟨hlo, hhi⟩ := h
  have hle := Int32.toUInt32_le (Int32.le_trans (by decide) hlo) hhi
  exact Nat.lt_of_le_of_lt (UInt32.le_iff_toNat_le.mp hle) (by decide)

/-- The bits of a number that fields may have are the number. -/
theorem Field.InRange.toNat_toUInt32 {f : Field} (h : f.InRange) :
    f.number.toUInt32.toNat = f.number.toInt.toNat :=
  Int32.toNat_toUInt32_of_le (Int32.le_trans (by decide) h.1)

variable {s : Surroundings}

/-- A field that is taken over has a number that fields may have, and the comment at its path. -/
theorem field_eq_ok {owner : String} {path : List Int32} {f : Descriptor.Field} {g : Field}
    (h : field s owner path f = .ok g) :
    (1 ≤ f.numberValue ∧ f.numberValue ≤ maxFieldNumber) ∧ g.number = f.numberValue ∧
      g.name = f.nameText ∧ g.doc = s.comments.get? path := by
  rw [field] at h
  by_cases hout : (f.numberValue < 1 || maxFieldNumber < f.numberValue) = true
  · rw [if_pos hout] at h
    cases h
  · rw [if_neg hout] at h
    simp only [Bool.or_eq_true, decide_eq_true_eq, not_or, Int32.not_lt] at hout
    refine ⟨hout, ?_⟩
    dsimp only at h
    split at h
    next =>
      cases h
      exact ⟨rfl, rfl, rfl⟩
    next =>
      split at h
      next => cases h
      next =>
        obtain ⟨mapEntry, -, h⟩ := bind_eq_ok.mp h
        cases h
        exact ⟨rfl, rfl, rfl⟩

/-- A field that is taken over has a number that fields may have. -/
theorem field_inRange {owner : String} {path : List Int32} {f : Descriptor.Field} {g : Field}
    (h : field s owner path f = .ok g) : g.InRange := by
  obtain ⟨hrange, hnumber, -, -⟩ := field_eq_ok h
  rw [Field.InRange, hnumber]
  exact hrange

/-! ## Elements of lists -/

/-- Work on the elements of a list and their indices gives, at each index, what it gives for the
element there. -/
theorem rel_getElem? {α β ε : Type} (one : Nat → α → Except ε β)
    (all : Nat → List α → Except ε (List β)) (hnil : ∀ index, all index [] = .ok [])
    (hcons : ∀ index a as, all index (a :: as) = do
      let b ← one index a
      return b :: (← all (index + 1) as)) {as : List α} :
    ∀ {index : Nat} {bs : List β}, all index as = .ok bs → ∀ k,
      Option.Rel (fun a b => one (index + k) a = .ok b) as[k]? bs[k]? := by
  induction as with
  | nil =>
    intro index bs h k
    rw [hnil] at h
    cases h
    exact .none
  | cons a as ih =>
    intro index bs h k
    rw [hcons] at h
    obtain ⟨b, hb, h⟩ := bind_eq_ok.mp h
    obtain ⟨others, hothers, h⟩ := bind_eq_ok.mp h
    cases h
    cases k with
    | zero => exact .some hb
    | succ k =>
      rw [← Nat.succ_add_eq_add_succ]
      exact ih hothers k

section
variable {owner parent : String} {path : List Int32}

/-- Each field of a list is taken over on its own, under the path of its index. -/
theorem fieldsFrom_at {fs : List Descriptor.Field} {gs : List Field}
    (h : fieldsFrom s owner path 0 fs = .ok gs) (k : Nat) :
    Option.Rel (fun f g => field s owner (path ++ [2, Int32.ofNat k]) f = .ok g) fs[k]? gs[k]? := by
  have hrel := rel_getElem? (fun index => field s owner (elementPath path messageFields index))
    (fieldsFrom s owner path) (fun _ => rfl) (fun _ _ _ => rfl) h k
  rwa [Nat.zero_add] at hrel

/-- Each message of a list is taken over on its own, under the path of its index. -/
theorem messagesFrom_at {list : Int32} {ms : List Descriptor.Message} {ms' : List Message}
    (h : messagesFrom s parent path list 0 ms = .ok ms') (k : Nat) :
    Option.Rel (fun m m' => message s parent (path ++ [list, Int32.ofNat k]) m = .ok m')
      ms[k]? ms'[k]? := by
  have hrel := rel_getElem? (fun index => message s parent (elementPath path list index))
    (messagesFrom s parent path list) (fun _ => rfl) (fun _ _ _ => rfl) h k
  rwa [Nat.zero_add] at hrel

/-- Fields that are taken over have numbers that fields may have. -/
theorem fieldsFrom_inRange {fs : List Descriptor.Field} {gs : List Field}
    (h : fieldsFrom s owner path 0 fs = .ok gs) : ∀ g ∈ gs, g.InRange := by
  intro g hg
  obtain ⟨k, hk⟩ := List.getElem?_of_mem hg
  have hrel := fieldsFrom_at h k
  rw [hk] at hrel
  generalize fs[k]? = f at hrel
  cases hrel with
  | some hfield => exact field_inRange hfield

end

/-! ## Messages and their sources -/

/-- What a message that is taken over consists of: its names, the comment at its path, and its
fields and the messages in it, taken over in their turn. -/
structure Message.Parts (s : Surroundings) (parent : String) (path : List Int32)
    (m : Descriptor.Message) (x : Message) : Prop where
  name_eq : x.name = m.nameText
  fullName_eq : x.fullName = qualify parent x.name
  doc_eq : x.doc = s.comments.get? path
  fields : fieldsFrom s x.fullName path 0 m.fields = .ok x.fields
  nested : messagesFrom s x.fullName path messageNested 0 m.nested = .ok x.nested

/-- A message that is taken over has its parts taken over. -/
theorem message_eq_ok {parent : String} {path : List Int32} {m : Descriptor.Message} {x : Message}
    (h : message s parent path m = .ok x) : x.Parts s parent path m := by
  obtain ⟨name, fields, nested, mapEntry⟩ := m
  obtain ⟨fields', hfields, h⟩ := bind_eq_ok.mp h
  obtain ⟨nested', hnested, h⟩ := bind_eq_ok.mp h
  cases h
  exact ⟨rfl, rfl, rfl, hfields, hnested⟩

/-- A message that one of a descriptor is taken over as. -/
def Message.HasSource (s : Surroundings) (x : Message) : Prop :=
  ∃ parent path m, message s parent path m = .ok x

mutual

/-- A message that is taken over has a source, and so have the messages in it. -/
theorem message_source {parent : String} {path : List Int32} :
    ∀ {m : Descriptor.Message} {message' : Message}, message s parent path m = .ok message' →
      ∀ x ∈ message'.walk, x.HasSource s
  | ⟨name, fields, nested, mapEntry⟩, message', h, x, hx => by
    have hself : message'.HasSource s := ⟨parent, path, _, h⟩
    obtain ⟨fields', -, h⟩ := bind_eq_ok.mp h
    obtain ⟨nested', hnested, h⟩ := bind_eq_ok.mp h
    cases h
    rcases List.mem_cons.mp hx with rfl | hx
    · exact hself
    · exact messagesFrom_source hnested x hx

/-- Every message in those that are taken over comes from one of the descriptor. -/
theorem messagesFrom_source {parent : String} {path : List Int32} {list : Int32} :
    ∀ {index : Nat} {ms : List Descriptor.Message} {messages : List Message},
      messagesFrom s parent path list index ms = .ok messages →
        ∀ x ∈ walkAll messages, x.HasSource s
  | _, [], messages, h, x, hx => by
    cases h
    cases hx
  | index, m :: ms, messages, h, x, hx => by
    obtain ⟨first, hfirst, h⟩ := bind_eq_ok.mp h
    obtain ⟨others, hothers, h⟩ := bind_eq_ok.mp h
    cases h
    rcases List.mem_append.mp hx with hx | hx
    · exact message_source hfirst x hx
    · exact messagesFrom_source hothers x hx

end

/-- Every message of a schema that a descriptor is taken over as has a source. -/
theorem ofDescriptor_source {file : Descriptor.File} {schema : File}
    (h : ofDescriptor file = .ok schema) : ∃ s, ∀ x ∈ schema.walk, x.HasSource s := by
  obtain ⟨messages, hmessages, h⟩ := bind_eq_ok.mp h
  cases h
  exact ⟨_, messagesFrom_source hmessages⟩

/-- A message has the fields of its source, and its name below that of the surroundings. -/
theorem Message.HasSource.exists_fields {x : Message} (h : x.HasSource s) :
    ∃ parent path fs, x.fullName = qualify parent x.name ∧
      fieldsFrom s x.fullName path 0 fs = .ok x.fields := by
  obtain ⟨parent, path, m, h⟩ := h
  have hparts := message_eq_ok h
  exact ⟨parent, path, m.fields, hparts.fullName_eq, hparts.fields⟩

/-- All fields of a schema that a descriptor is taken over as are in range. -/
theorem ofDescriptor_inRange {file : Descriptor.File} {schema : File}
    (h : ofDescriptor file = .ok schema) : ∀ x ∈ schema.walk, ∀ f ∈ x.fields, f.InRange := by
  intro x hx
  obtain ⟨s, hsource⟩ := ofDescriptor_source h
  obtain ⟨parent, path, fs, -, hfields⟩ := (hsource x hx).exists_fields
  exact fieldsFrom_inRange hfields

/-- The full name of a message, with the dot that references start with, ends with its local name
behind a dot. -/
theorem ofDescriptor_fullName {file : Descriptor.File} {schema : File}
    (h : ofDescriptor file = .ok schema) :
    ∀ x ∈ schema.walk, ∃ front, "." ++ x.fullName = front ++ "." ++ x.name := by
  intro x hx
  obtain ⟨s, hsource⟩ := ofDescriptor_source h
  obtain ⟨parent, path, fs, hname, -⟩ := (hsource x hx).exists_fields
  rw [hname, qualify]
  split
  next => exact ⟨"", rfl⟩
  next => exact ⟨"." ++ parent, by simp only [String.append_assoc]⟩

end Wiregen.Schema
