import Wiregen.Proofs.Wire.Front

/-!
# Reading up to the end, in two steps

What is read step by step up to the end of the input can be had in two: first the input is split
into the items it is made of (`split`), as far as they can be read, and then the items are taken in
one after the other (`Split.fold`). `untilEnd_into` says that this is the same, failures included:
an item that cannot be taken in comes before a later one that cannot be read.
-/

namespace Wiregen.Wire

variable {α σ : Type}

/-- Input as items: those read one after the other from its front, and why the next one cannot be,
unless the input ends behind them. -/
structure Split (α : Type) where
  items : List α
  broken : Option DecodeError

/-- Reads items up to the end of the input, or up to the first that cannot be read. -/
def split (r : Reader α) (shortens : r.Shortens) (input : Bytes) : Split α :=
  if input = [] then ⟨[], none⟩
  else
    match _h : r input with
    | .error e => ⟨[], some e⟩
    | .ok (a, rest) =>
      let others := split r shortens rest
      ⟨a :: others.items, others.broken⟩
termination_by input.length
decreasing_by exact shortens _h

/-- Takes in the items one after the other. The first that cannot be taken in is the error, and the
item that cannot be read comes after all that can. -/
def Split.fold (absorb : σ → α → Except DecodeError σ) (state : σ) (s : Split α) :
    Except DecodeError σ := do
  let state ← s.items.foldlM absorb state
  match s.broken with
  | none => .ok state
  | some e => .error e

/-- Why something failed, if it did. -/
def failure? : Except DecodeError σ → Option DecodeError
  | .ok _ => none
  | .error e => some e

/-- Reads one item and takes it in. -/
def Reader.into (r : Reader α) (absorb : σ → α → Except DecodeError σ) (state : σ) : Reader σ :=
  r.tryMap (absorb state)

/-! ## Splitting -/

section
variable {r : Reader α} {shortens : r.Shortens} {input rest : Bytes} {a : α}

@[simp] theorem split_nil : split r shortens [] = ⟨[], none⟩ := by
  rw [split]
  simp

/-- The first item that cannot be read ends the items. -/
theorem split_of_error {e : DecodeError} (hne : input ≠ []) (h : r input = .error e) :
    split r shortens input = ⟨[], some e⟩ := by
  rw [split, if_neg hne]
  split
  next e' h' =>
    rw [h] at h'
    cases h'
    rfl
  next h' => rw [h] at h'; cases h'

/-- An item that is read stands before those in what it leaves. -/
theorem split_of_ok (h : r input = .ok (a, rest)) :
    split r shortens input =
      ⟨a :: (split r shortens rest).items, (split r shortens rest).broken⟩ := by
  have hne : input ≠ [] := by
    rintro rfl
    exact Nat.not_lt_zero _ (shortens h)
  conv => lhs; rw [split, if_neg hne]
  split
  next h' => rw [h] at h'; cases h'
  next a' rest' h' =>
    rw [h] at h'
    cases h'
    rfl

/-- Behind whole items others go on: what is split after them is what stands there on its own. -/
theorem split_append (front : r.LooksAtFront) {first : Bytes}
    (whole : (split r shortens first).broken = none) (second : Bytes) :
    split r shortens (first ++ second) =
      ⟨(split r shortens first).items ++ (split r shortens second).items,
        (split r shortens second).broken⟩ := by
  induction hn : first.length using Nat.strongRecOn generalizing first with
  | ind n ih =>
    subst hn
    by_cases hne : first = []
    · subst hne
      rw [split_nil, List.nil_append, List.nil_append]
    cases hr : r first with
    | error e =>
      rw [split_of_error hne hr] at whole
      cases whole
    | ok p =>
      obtain ⟨a, rest⟩ := p
      rw [split_of_ok hr] at whole
      have hothers := ih _ (shortens hr) whole rfl
      rw [split_of_ok (front.append hr second), split_of_ok hr, hothers, List.cons_append]

variable (shortens) in
/-- Whole items in front do not matter to what is broken behind them. -/
theorem broken_flatten_append (front : r.LooksAtFront) {items : List Bytes}
    (h : ∀ x ∈ items, ∃ a, r x = .ok (a, [])) (rest : Bytes) :
    (split r shortens (items.flatten ++ rest)).broken = (split r shortens rest).broken := by
  induction items with
  | nil => rfl
  | cons x items ih =>
    obtain ⟨a, ha⟩ := h x List.mem_cons_self
    have hfirst := front.append ha (items.flatten ++ rest)
    rw [List.flatten_cons, List.append_assoc, split_of_ok hfirst]
    exact ih fun y hy => h y (List.mem_cons_of_mem x hy)

variable (shortens) in
/-- Written items are split into themselves, whatever is behind them, if each is read back. -/
theorem split_flatMap_append {items : List α} {write : α → Bytes}
    (hread : ∀ a ∈ items, ∀ rest, r (write a ++ rest) = .ok (a, rest)) (rest : Bytes) :
    split r shortens (items.flatMap write ++ rest) =
      ⟨items ++ (split r shortens rest).items, (split r shortens rest).broken⟩ := by
  induction items with
  | nil => rfl
  | cons a items ih =>
    have hfirst := hread a List.mem_cons_self (items.flatMap write ++ rest)
    have hothers := ih fun b hb => hread b (List.mem_cons_of_mem a hb)
    rw [List.flatMap_cons, List.append_assoc, split_of_ok hfirst, hothers, List.cons_append]

variable (shortens) in
/-- Written items are split into themselves if each is read back. -/
theorem split_flatMap {items : List α} {write : α → Bytes}
    (hread : ∀ a ∈ items, ∀ rest, r (write a ++ rest) = .ok (a, rest)) :
    split r shortens (items.flatMap write) = ⟨items, none⟩ := by
  have := split_flatMap_append shortens hread []
  simpa using this

/-- Every item is read from the input or what other items leave of it. -/
theorem read_of_mem_split {input : Bytes} (h : a ∈ (split r shortens input).items) :
    ∃ front rest, r front = .ok (a, rest) ∧ front.length ≤ input.length := by
  induction hn : input.length using Nat.strongRecOn generalizing input with
  | ind n ih =>
    subst hn
    by_cases hne : input = []
    · subst hne
      simp at h
    cases hr : r input with
    | error e =>
      rw [split_of_error hne hr] at h
      cases h
    | ok p =>
      rw [split_of_ok hr] at h
      rcases List.mem_cons.mp h with rfl | h
      · exact ⟨input, p.2, hr, Nat.le_refl _⟩
      · obtain ⟨front, rest, hfront, hle⟩ := ih _ (shortens hr) h rfl
        exact ⟨front, rest, hfront, Nat.le_trans hle (Nat.le_of_lt (shortens hr))⟩

end

/-! ## Taking in -/

section
variable {absorb : σ → α → Except DecodeError σ} {state : σ}

/-- The first item is taken in before the others. -/
theorem Split.fold_cons (a : α) (s : Split α) :
    Split.fold absorb state ⟨a :: s.items, s.broken⟩ =
      (absorb state a).bind fun state => s.fold absorb state := by
  simp only [Split.fold, List.foldlM_cons, bind, Except.bind]
  cases absorb state a <;> rfl

/-- Items in front of others are taken in first. -/
theorem Split.fold_append (items : List α) (s : Split α) :
    Split.fold absorb state ⟨items ++ s.items, s.broken⟩ =
      (items.foldlM absorb state).bind fun state => s.fold absorb state := by
  simp only [Split.fold, List.foldlM_append, bind, Except.bind]
  cases items.foldlM absorb state <;> rfl

/-- Everything is taken in if all items can be read and each can be taken in. -/
theorem Split.fold_eq_ok {s : Split α} {last : σ} :
    s.fold absorb state = .ok last ↔
      s.broken = none ∧ s.items.foldlM absorb state = .ok last := by
  obtain ⟨items, broken⟩ := s
  simp only [Split.fold, bind, Except.bind]
  cases items.foldlM absorb state <;> cases broken <;> simp

/-- Items that are all read need only be taken in. -/
theorem Split.fold_whole (items : List α) :
    Split.fold absorb state ⟨items, none⟩ = items.foldlM absorb state := by
  simp only [Split.fold, bind, Except.bind]
  cases items.foldlM absorb state <;> rfl

/-- Taking in depends on what is done to the items there are. -/
theorem Split.fold_congr {absorb' : σ → α → Except DecodeError σ} {s : Split α}
    (h : ∀ a ∈ s.items, ∀ state, absorb state a = absorb' state a) :
    s.fold absorb state = s.fold absorb' state := by
  obtain ⟨items, broken⟩ := s
  induction items generalizing state with
  | nil => rfl
  | cons a items ih =>
    have hothers : ∀ state, Split.fold absorb state ⟨items, broken⟩ =
        Split.fold absorb' state ⟨items, broken⟩ :=
      fun state => ih fun b hb => h b (List.mem_cons_of_mem a hb)
    rw [Split.fold_cons a ⟨items, broken⟩, Split.fold_cons a ⟨items, broken⟩,
      h a List.mem_cons_self]
    cases absorb' state a with
    | error e => rfl
    | ok state => exact hothers state

/-- What holds before and is kept by each item that is taken in holds behind them. -/
theorem Split.fold_invariant {p : σ → Prop} {s : Split α}
    (habsorb : ∀ a ∈ s.items, ∀ state state', p state → absorb state a = .ok state' → p state')
    (hstate : p state) {last : σ} (h : s.fold absorb state = .ok last) : p last := by
  obtain ⟨items, broken⟩ := s
  induction items generalizing state with
  | nil =>
    cases broken with
    | none =>
      cases h
      exact hstate
    | some e => cases h
  | cons a items ih =>
    rw [Split.fold_cons a ⟨items, broken⟩] at h
    cases ha : absorb state a with
    | error e => rw [ha] at h; cases h
    | ok state' =>
      rw [ha] at h
      have hstate' := habsorb a List.mem_cons_self state state' hstate ha
      exact ih hstate' (fun b hb => habsorb b (List.mem_cons_of_mem a hb)) h

/-- A view of the states goes along with taking in, if it does with each item. -/
theorem Split.fold_map {τ : Type} {view : σ → τ} {absorb' : τ → α → Except DecodeError τ}
    (h : ∀ state a, (absorb state a).map view = absorb' (view state) a) (s : Split α) (state : σ) :
    (s.fold absorb state).map view = s.fold absorb' (view state) := by
  obtain ⟨items, broken⟩ := s
  induction items generalizing state with
  | nil => cases broken <;> rfl
  | cons a items ih =>
    rw [Split.fold_cons a ⟨items, broken⟩, Split.fold_cons a ⟨items, broken⟩, ← h state a]
    cases absorb state a with
    | error e => rfl
    | ok state' => exact ih state'

@[simp] theorem failure?_ok (a : σ) : failure? (.ok a) = none := rfl

/-- Something failed for a reason exactly if it ended in that error. -/
theorem failure?_eq_some {x : Except DecodeError σ} {e : DecodeError} :
    failure? x = some e ↔ x = .error e := by
  cases x <;> simp [failure?]

/-- Nothing failed exactly if there is a result. -/
theorem failure?_eq_none {x : Except DecodeError σ} : failure? x = none ↔ ∃ a, x = .ok a := by
  cases x <;> simp [failure?]

@[simp] theorem failure?_map {β : Type} (x : Except DecodeError σ) (f : σ → β) :
    failure? (x.map f) = failure? x := by
  cases x <;> rfl

/-- The first of two steps to fail says why both do, if the second fails alike on all that it is
given. -/
theorem failure?_bind {β : Type} {f : σ → Except DecodeError β} {e? : Option DecodeError}
    (h : ∀ a, failure? (f a) = e?) (x : Except DecodeError σ) :
    failure? (x.bind f) = (failure? x).or e? := by
  cases x with
  | ok a => exact h a
  | error e => rfl

/-- If each item is refused for a reason of its own, whatever was taken in before it, the first
that is refused says why all of them are; only then comes the item that cannot be read. -/
theorem Split.failure?_fold {refusal? : α → Option DecodeError}
    (h : ∀ state a, failure? (absorb state a) = refusal? a) (s : Split α) (state : σ) :
    failure? (s.fold absorb state) = (s.items.findSome? refusal?).or s.broken := by
  obtain ⟨items, broken⟩ := s
  induction items generalizing state with
  | nil => cases broken <;> rfl
  | cons a items ih =>
    rw [Split.fold_cons a ⟨items, broken⟩, failure?_bind ih, h, List.findSome?_cons]
    cases refusal? a <;> rfl

/-- Reading items and taking them in up to the end is splitting the input first and taking in the
items afterwards. -/
theorem untilEnd_into {r : Reader α} (shortens : r.Shortens) (stuck : DecodeError) (input : Bytes) :
    untilEnd stuck (r.into absorb) state input = (split r shortens input).fold absorb state := by
  induction hn : input.length using Nat.strongRecOn generalizing input state with
  | ind n ih =>
    subst hn
    by_cases hne : input = []
    · subst hne
      rw [untilEnd_nil, split_nil]
      rfl
    rw [untilEnd, if_neg hne, Reader.into, Reader.tryMap]
    cases hr : r input with
    | error e =>
      rw [Reader.andThen_of_error hr, split_of_error hne hr]
      rfl
    | ok p =>
      obtain ⟨a, rest⟩ := p
      have hlt := shortens hr
      rw [Reader.andThen_of_ok hr, split_of_ok hr, Split.fold_cons]
      cases ha : absorb state a with
      | error e => rfl
      | ok state' =>
        simp only [Except.map, Except.bind, if_pos hlt]
        exact ih _ hlt rest rfl

end

end Wiregen.Wire
