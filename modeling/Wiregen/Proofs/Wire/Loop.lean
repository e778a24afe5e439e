import Wiregen.Proofs.Wire.Position
import Wiregen.Proofs.Wire.Split

/-!
# Loops with a cursor

Reading up to the end of a buffer is a loop that reads at a cursor as long as that is in front of
the end (`Loop`), with nothing that watches over it. A step that leaves less than it is given moves
the cursor on and not past the end (`advances`), and so the loop ends, in no more steps than the
buffer has bytes, as `untilEnd` does (`endsWith`).
-/

namespace Wiregen.Wire

variable {α σ : Type}

/-- Every step that does not fail moves the cursor on, and not past the end of the buffer. -/
def Advances (step : σ → Reader σ) : Prop :=
  ∀ ⦃data : Bytes⦄ ⦃pos pos' : Nat⦄ ⦃state state' : σ⦄, pos < data.length →
    (step state).readAt data pos = .ok (state', pos') → pos < pos' ∧ pos' ≤ data.length

/-- What a loop comes to that starts with a state and a cursor and takes steps as long as the cursor
is in front of the end of the buffer: how many steps it takes, and then its state and its cursor, or
why the last step fails. -/
inductive Loop (step : σ → Reader σ) (data : Bytes) :
    σ → Nat → Nat → Except DecodeError (σ × Nat) → Prop where
  | stop {state : σ} {pos : Nat} (atEnd : ¬ pos < data.length) :
      Loop step data state pos 0 (.ok (state, pos))
  | fail {state : σ} {pos : Nat} {e : DecodeError} (inFront : pos < data.length)
      (taken : (step state).readAt data pos = .error e) : Loop step data state pos 1 (.error e)
  | next {state state' : σ} {pos pos' n : Nat} {outcome : Except DecodeError (σ × Nat)}
      (inFront : pos < data.length) (taken : (step state).readAt data pos = .ok (state', pos'))
      (others : Loop step data state' pos' n outcome) : Loop step data state pos (n + 1) outcome

/-- From the start of a buffer a loop comes to one outcome, in no more steps than the buffer has
bytes: a failure, or a state that it stops in with its cursor at the very end. -/
def EndsWith (step : σ → Reader σ) (data : Bytes) (state : σ) (result : Except DecodeError σ) :
    Prop :=
  ∃ n ≤ data.length, ∀ n' outcome, Loop step data state 0 n' outcome ↔
    n' = n ∧ outcome = result.map fun state => (state, data.length)

/-! ## Steps -/

section
variable {r : Reader α} {absorb : σ → α → Except DecodeError σ}

/-- A read that shortens the input does so where its value is taken in. -/
theorem Reader.Shortens.into (h : r.Shortens) (state : σ) : (r.into absorb state).Shortens :=
  h.tryMap (absorb state)

/-- A read takes the same bytes where its value is taken in. -/
theorem Reader.LooksAtFront.into (h : r.LooksAtFront) (state : σ) :
    (r.into absorb state).LooksAtFront :=
  h.tryMap (absorb state)

end

/-- A step that leaves less than it is given moves the cursor on. -/
theorem advances {step : σ → Reader σ} (shortens : ∀ state, (step state).Shortens) :
    Advances step :=
  fun _ _ _ state _ _ h => (shortens state).lt_of_readAt h

/-! ## Outcomes -/

section
variable {step : σ → Reader σ} {data : Bytes}

/-- A loop comes to one outcome. -/
theorem Loop.unique {state : σ} {pos n n' : Nat} {outcome outcome' : Except DecodeError (σ × Nat)}
    (h : Loop step data state pos n outcome) (h' : Loop step data state pos n' outcome') :
    n' = n ∧ outcome' = outcome := by
  induction h generalizing n' with
  | stop atEnd =>
    cases h' with
    | stop => exact ⟨rfl, rfl⟩
    | fail inFront | next inFront => exact absurd inFront atEnd
  | fail inFront taken =>
    cases h' with
    | stop atEnd => exact absurd inFront atEnd
    | fail _ taken' =>
      rw [taken] at taken'
      cases taken'
      exact ⟨rfl, rfl⟩
    | next _ taken' =>
      rw [taken] at taken'
      cases taken'
  | next inFront taken others ih =>
    cases h' with
    | stop atEnd => exact absurd inFront atEnd
    | fail _ taken' =>
      rw [taken] at taken'
      cases taken'
    | next _ taken' others' =>
      rw [taken] at taken'
      cases taken'
      obtain ⟨rfl, rfl⟩ := ih others'
      exact ⟨rfl, rfl⟩

/-- A loop comes to the outcome of reading what is behind its cursor up to the end. -/
theorem exists_loop (shortens : ∀ state, (step state).Shortens)
    (looks : ∀ state, (step state).LooksAtFront) (stuck : DecodeError) {pos : Nat}
    (hpos : pos ≤ data.length) (state : σ) :
    ∃ n ≤ data.length - pos, Loop step data state pos n
      ((untilEnd stuck step state (data.drop pos)).map fun state => (state, data.length)) := by
  -- On what is behind the cursor, which each step makes less.
  induction hn : data.length - pos using Nat.strongRecOn generalizing pos state with
  | ind n ih =>
    subst hn
    by_cases hend : pos = data.length
    · subst hend
      rw [List.drop_length, untilEnd_nil]
      exact ⟨0, Nat.zero_le _, .stop (Nat.lt_irrefl _)⟩
    have hlt : pos < data.length := Nat.lt_of_le_of_ne hpos hend
    have hne : data.drop pos ≠ [] := by
      rw [ne_eq, List.drop_eq_nil_iff]
      omega
    rw [untilEnd, if_neg hne]
    cases hstep : step state (data.drop pos) with
    | error e => exact ⟨1, by omega, .fail hlt (Reader.readAt_eq_error.mpr hstep)⟩
    | ok p =>
      obtain ⟨state', rest⟩ := p
      have htaken : (step state).readAt data pos = .ok (state', data.length - rest.length) :=
        Reader.readAt_eq_ok.mpr ⟨rest, hstep, rfl⟩
      obtain ⟨hon, hin⟩ := advances shortens hlt htaken
      obtain ⟨n, hn, hothers⟩ := ih _ (by omega) hin state' rfl
      rw [(looks state).drop_eq hstep] at hothers
      simp only [if_pos (shortens state hstep)]
      exact ⟨n + 1, by omega, .next hlt htaken hothers⟩

/-- A loop over a whole buffer comes to the outcome of reading it up to the end. -/
theorem endsWith (shortens : ∀ state, (step state).Shortens)
    (looks : ∀ state, (step state).LooksAtFront) (stuck : DecodeError) (data : Bytes) (state : σ) :
    EndsWith step data state (untilEnd stuck step state data) := by
  obtain ⟨n, hn, hloop⟩ := exists_loop shortens looks stuck (Nat.zero_le data.length) state
  rw [List.drop_zero] at hloop
  refine ⟨n, hn, fun n' outcome => ⟨hloop.unique, ?_⟩⟩
  rintro ⟨rfl, rfl⟩
  exact hloop

end

end Wiregen.Wire
