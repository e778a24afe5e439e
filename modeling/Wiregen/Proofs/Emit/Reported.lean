import Mathlib.Data.List.Forall2
import Wiregen.Emit.Reported

/-!
# Reported work that succeeds

What succeeds in steps has steps that all succeed, whatever they report.
-/

namespace Wiregen.Emit.Reported

variable {α β : Type}

@[simp] theorem ofExcept_outcome (x : Except Halt α) : (ofExcept x).outcome = x := rfl

/-- Reports play no part in how two steps come out. -/
theorem bind_outcome (x : Reported α) (f : α → Reported β) :
    (x >>= f).outcome = x.outcome >>= fun a => (f a).outcome := by
  obtain ⟨diagnostics, outcome⟩ := x
  cases outcome <;> rfl

/-- Two steps succeed if the first does, and the second does on what the first gives. -/
theorem bind_eq_ok {x : Reported α} {f : α → Reported β} {b : β} :
    (x >>= f).outcome = .ok b ↔ ∃ a, x.outcome = .ok a ∧ (f a).outcome = .ok b := by
  obtain ⟨diagnostics, outcome⟩ := x
  cases outcome <;> simp [bind, andThen]

/-- Two steps end early as the first does, or else as the second does. -/
theorem bind_eq_error {x : Reported α} {f : α → Reported β} {halt : Halt} :
    (x >>= f).outcome = .error halt ↔
      x.outcome = .error halt ∨ ∃ a, x.outcome = .ok a ∧ (f a).outcome = .error halt := by
  obtain ⟨diagnostics, outcome⟩ := x
  cases outcome <;> simp [bind, andThen]

/-- Work in two steps reports what the first reports and, if that succeeds, what the second does. -/
theorem bind_diagnostics {x : Reported α} {a : α} (h : x.outcome = .ok a) (f : α → Reported β) :
    (x >>= f).diagnostics = x.diagnostics ++ (f a).diagnostics := by
  simp [bind, andThen, h]

@[simp] theorem map_outcome (f : α → β) (x : Reported α) :
    (f <$> x).outcome = x.outcome.map f := by
  obtain ⟨diagnostics, outcome⟩ := x
  cases outcome <;> rfl

@[simp] theorem map_diagnostics (f : α → β) (x : Reported α) :
    (f <$> x).diagnostics = x.diagnostics := by
  obtain ⟨diagnostics, outcome⟩ := x
  cases outcome <;> simp [Functor.map, andThen]

/-- Work that ends in its first step reports what that step reports. -/
theorem bind_diagnostics_of_error {x : Reported α} {halt : Halt} (h : x.outcome = .error halt)
    (f : α → Reported β) : (x >>= f).diagnostics = x.diagnostics := by
  simp [bind, andThen, h]

/-- A change of the result succeeds exactly where the work does. -/
theorem map_eq_ok {x : Reported α} {f : α → β} {b : β} :
    (f <$> x).outcome = .ok b ↔ ∃ a, x.outcome = .ok a ∧ f a = b := by
  obtain ⟨diagnostics, outcome⟩ := x
  cases outcome <;> simp [Functor.map, andThen]

/-- Work on each element of a list succeeds with what it gives for each. -/
theorem each_eq_ok {f : α → Reported β} {as : List α} :
    ∀ {bs : List β}, (each f as).outcome = .ok bs →
      as.map (fun a => (f a).outcome) = bs.map .ok := by
  induction as with
  | nil =>
    intro bs h
    cases h
    rfl
  | cons a as ih =>
    intro bs h
    obtain ⟨b, hb, h⟩ := bind_eq_ok.mp h
    obtain ⟨others, hothers, h⟩ := bind_eq_ok.mp h
    cases h
    rw [List.map_cons, List.map_cons, hb, ih hothers]

/-- Work on a list succeeds exactly if it does on each element, with what it gives for each. -/
theorem each_eq_ok_iff {f : α → Reported β} {as : List α} {bs : List β} :
    (each f as).outcome = .ok bs ↔ List.Forall₂ (fun a b => (f a).outcome = .ok b) as bs := by
  induction as generalizing bs with
  | nil => simp [each, pure, eq_comm]
  | cons a as ih =>
    rw [each, bind_eq_ok]
    constructor
    · rintro ⟨b, hb, h⟩
      obtain ⟨others, hothers, hpure⟩ := bind_eq_ok.mp h
      cases hpure
      exact .cons hb (ih.mp hothers)
    · intro h
      cases h with
      | cons hb hothers => exact ⟨_, hb, bind_eq_ok.mpr ⟨_, ih.mpr hothers, rfl⟩⟩

/-- Work on each element of a list ends at the first element that it does not succeed on. -/
theorem each_eq_error {f : α → Reported β} {as : List α} {halt : Halt} :
    (each f as).outcome = .error halt ↔
      ∃ before a after, as = before ++ a :: after ∧
        (∀ x ∈ before, ∃ b, (f x).outcome = .ok b) ∧ (f a).outcome = .error halt := by
  induction as with
  | nil => simp [each, pure]
  | cons a as ih =>
    rw [each, bind_eq_error]
    constructor
    · rintro (ha | ⟨b, hb, hothers⟩)
      · exact ⟨[], a, as, rfl, by simp, ha⟩
      · rw [bind_eq_error, ih] at hothers
        obtain ⟨before, x, after, rfl, hbefore, hx⟩ | ⟨others, -, hpure⟩ := hothers
        · exact ⟨a :: before, x, after, rfl, List.forall_mem_cons.mpr ⟨⟨b, hb⟩, hbefore⟩, hx⟩
        · cases hpure
    · rintro ⟨before, x, after, hsplit, hbefore, hx⟩
      cases before with
      | nil =>
        obtain ⟨rfl, rfl⟩ := List.cons.inj hsplit
        exact .inl hx
      | cons first before =>
        obtain ⟨rfl, rfl⟩ := List.cons.inj hsplit
        obtain ⟨⟨b, hb⟩, hbefore⟩ := List.forall_mem_cons.mp hbefore
        exact .inr ⟨b, hb, bind_eq_error.mpr (.inl (ih.mpr ⟨before, x, after, rfl, hbefore, hx⟩))⟩

/-- Work that succeeds on a list reports what it reports on each element, in order. -/
theorem each_diagnostics {f : α → Reported β} {as : List α} {bs : List β}
    (h : (each f as).outcome = .ok bs) :
    (each f as).diagnostics = as.flatMap fun a => (f a).diagnostics := by
  induction as generalizing bs with
  | nil => rfl
  | cons a as ih =>
    obtain ⟨b, hb, h⟩ := bind_eq_ok.mp h
    obtain ⟨others, hothers, -⟩ := bind_eq_ok.mp h
    rw [each, bind_diagnostics hb, bind_diagnostics hothers, ih hothers, List.flatMap_cons]
    simp [pure]

/-- What is the same of an element and of what such work gives for it, is so of the two lists. -/
theorem map_each {γ : Type} {f : α → Reported β} {as : List α} {bs : List β}
    (h : (each f as).outcome = .ok bs) {p : β → γ} {q : α → γ}
    (hpq : ∀ a ∈ as, ∀ b, (f a).outcome = .ok b → p b = q a) : bs.map p = as.map q := by
  have heach := each_eq_ok h
  clear h
  induction as generalizing bs with
  | nil => rw [List.map_eq_nil_iff.mp heach.symm, List.map_nil, List.map_nil]
  | cons a as ih =>
    obtain ⟨b, others, rfl, hb, hothers⟩ := List.map_eq_cons_iff.mp heach.symm
    rw [List.map_cons, List.map_cons, hpq a List.mem_cons_self b hb.symm,
      ih (fun a ha => hpq a (List.mem_cons_of_mem _ ha)) hothers.symm]

/-- What is true of all that such work gives is true of what it gives for each element. -/
theorem forall_mem_each {f : α → Reported β} {as : List α} {bs : List β}
    (h : (each f as).outcome = .ok bs) {p : β → Prop} {q : α → Prop}
    (hpq : ∀ a ∈ as, ∀ b, (f a).outcome = .ok b → (p b ↔ q a)) :
    (∀ b ∈ bs, p b) ↔ ∀ a ∈ as, q a := by
  have heach := each_eq_ok h
  constructor
  · intro hp a ha
    obtain ⟨b, hb, hfa⟩ := List.mem_map.mp (heach ▸ List.mem_map_of_mem ha)
    exact (hpq a ha b hfa.symm).mp (hp b hb)
  · intro hq b hb
    obtain ⟨a, ha, hfa⟩ := List.mem_map.mp (heach.symm ▸ List.mem_map_of_mem hb)
    exact (hpq a ha b hfa).mpr (hq a ha)

end Wiregen.Emit.Reported

namespace Wiregen.Emit

/-- An identifier is got exactly where there is one. -/
theorem identifier_eq_ok {α : Type} {name : String} {x : Option α} {a : α} :
    identifier name x = .ok a ↔ x = some a := by
  cases x <;> simp [identifier]

end Wiregen.Emit
