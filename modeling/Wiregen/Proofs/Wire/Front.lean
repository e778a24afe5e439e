import Wiregen.Proofs.Wire.Reader

/-!
# Readers look at what they take

A reader of the wire format takes bytes from the front of its input and looks at no others
(`Reader.LooksAtFront`). So it reads the same whatever stands behind them, and an input that ends
among them is an overflow, never another failure. What it refuses for any other reason it refuses
whatever stands behind it, too (`Reader.RefusesAtFront`). Taking bytes, varints and blocks are such
reads, and reads made of such reads are.
-/

namespace Wiregen.Wire

variable {α β : Type}

/-- Some bytes are what a read takes for its value: it takes them with anything behind them, and
runs past the end of the input if it ends among them. -/
structure Reader.Takes (r : Reader α) (front : Bytes) (a : α) : Prop where
  read : ∀ rest, r (front ++ rest) = .ok (a, rest)
  cut : ∀ ⦃short⦄, short <+: front → short ≠ front → r short = .error .bufferOverflow

/-- A read that takes the front of its input and looks at nothing behind. -/
def Reader.LooksAtFront (r : Reader α) : Prop :=
  ∀ ⦃input a rest⦄, r input = .ok (a, rest) → ∃ front, input = front ++ rest ∧ r.Takes front a

/-- A read that refuses an input with anything behind it, unless the input just ends too soon. -/
def Reader.RefusesAtFront (r : Reader α) : Prop :=
  ∀ ⦃input e⦄, r input = .error e → e ≠ .bufferOverflow → ∀ more, r (input ++ more) = .error e

namespace Reader

variable {r : Reader α}

/-- More bytes behind the input are left as they are. -/
theorem LooksAtFront.append (h : r.LooksAtFront) {input rest : Bytes} {a : α}
    (hr : r input = .ok (a, rest)) (more : Bytes) : r (input ++ more) = .ok (a, rest ++ more) := by
  obtain ⟨front, rfl, htakes⟩ := h hr
  rw [List.append_assoc]
  exact htakes.read (rest ++ more)

/-- An input that is taken to its end cannot be read with bytes cut off. -/
theorem LooksAtFront.cut (h : r.LooksAtFront) {start missing : Bytes} {a : α}
    (hr : r (start ++ missing) = .ok (a, [])) (hne : missing ≠ []) :
    r start = .error .bufferOverflow := by
  obtain ⟨front, hfront, htakes⟩ := h hr
  rw [List.append_nil] at hfront
  subst hfront
  refine htakes.cut (List.prefix_append start missing) fun heq => hne ?_
  exact List.append_right_eq_self.mp heq.symm

/-- A read that takes bytes from the front leaves no more than it is given. -/
theorem LooksAtFront.keeps (h : r.LooksAtFront) : r.Keeps := by
  intro input a rest hr
  obtain ⟨front, rfl, -⟩ := h hr
  rw [List.length_append]
  exact Nat.le_add_left _ _

/-- A read takes the same bytes when its value is changed. -/
theorem LooksAtFront.map (h : r.LooksAtFront) (f : α → β) : (r.map f).LooksAtFront := by
  intro input b rest hb
  obtain ⟨a, ha, rfl⟩ := map_eq_ok hb
  obtain ⟨front, rfl, htakes⟩ := h ha
  refine ⟨front, rfl, fun rest => map_of_ok (htakes.read rest), fun short hshort hne => ?_⟩
  rw [Reader.map, htakes.cut hshort hne]
  rfl

/-- A read takes the same bytes when its value is changed by something that may fail. -/
theorem LooksAtFront.tryMap (h : r.LooksAtFront) (f : α → Except DecodeError β) :
    (r.tryMap f).LooksAtFront := by
  intro input b rest hb
  obtain ⟨a, ha, hf⟩ := tryMap_eq_ok hb
  obtain ⟨front, rfl, htakes⟩ := h ha
  refine ⟨front, rfl, fun rest => ?_, fun short hshort hne => ?_⟩
  · rw [Reader.tryMap, andThen_of_ok (htakes.read rest), hf]
    rfl
  · exact andThen_of_error (htakes.cut hshort hne)

/-- What two reads take is what the first takes and then the second. A cut in it is one in what
the first takes, or the first is read and the cut is one in what the second takes. -/
theorem LooksAtFront.andThen {next : α → Reader β} (h : r.LooksAtFront)
    (hnext : ∀ a, (next a).LooksAtFront) : (r.andThen next).LooksAtFront := by
  intro input b rest hb
  obtain ⟨a, mid, ha, hmid⟩ := andThen_eq_ok hb
  obtain ⟨first, rfl, hfirst⟩ := h ha
  obtain ⟨second, rfl, hsecond⟩ := hnext a hmid
  refine ⟨first ++ second, (List.append_assoc _ _ _).symm, fun rest => ?_,
    fun short hshort hne => ?_⟩
  · rw [List.append_assoc, andThen_of_ok (hfirst.read _), hsecond.read]
  · -- The cut is either among the bytes of the first read or among those of the second.
    by_cases hinner : short <+: first ∧ short ≠ first
    · exact andThen_of_error (hfirst.cut hinner.1 hinner.2)
    · have hle : first <+: short := by
        rcases List.prefix_or_prefix_of_prefix hshort (List.prefix_append first second) with h | h
        · have heq : short = first := Decidable.not_not.mp fun hne => hinner ⟨h, hne⟩
          exact heq ▸ List.prefix_refl short
        · exact h
      obtain ⟨behind, rfl⟩ := hle
      have hbehind : behind <+: second := (List.prefix_append_right_inj first).mp hshort
      rw [andThen_of_ok (hfirst.read behind)]
      exact hsecond.cut hbehind fun heq => hne (by rw [heq])

/-- A read refuses the same inputs when its value is changed. -/
theorem RefusesAtFront.map (h : r.RefusesAtFront) (f : α → β) : (r.map f).RefusesAtFront := by
  intro input e he hne more
  unfold Reader.map at he ⊢
  cases hr : r input with
  | ok p => rw [hr] at he; cases he
  | error e' =>
    rw [hr] at he
    cases he
    rw [h hr hne more]
    rfl

/-- Two reads refuse what the first refuses, or what the second refuses of what the first leaves. -/
theorem RefusesAtFront.andThen {next : α → Reader β} (h : r.RefusesAtFront)
    (looks : r.LooksAtFront) (hnext : ∀ a, (next a).RefusesAtFront) :
    (r.andThen next).RefusesAtFront := by
  intro input e he hne more
  cases hr : r input with
  | error e' =>
    rw [andThen_of_error hr] at he
    cases he
    exact andThen_of_error (h hr hne more)
  | ok p =>
    obtain ⟨a, rest⟩ := p
    rw [andThen_of_ok hr] at he
    rw [andThen_of_ok (looks.append hr more)]
    exact hnext a he hne more

/-- A value that is refused was read before, and is refused again. -/
theorem RefusesAtFront.tryMap (h : r.RefusesAtFront) (looks : r.LooksAtFront)
    (f : α → Except DecodeError β) : (r.tryMap f).RefusesAtFront := by
  refine h.andThen looks fun a input e he _ more => ?_
  cases hf : f a with
  | ok b => rw [hf] at he; cases he
  | error e' =>
    rw [hf] at he
    cases he
    rfl

end Reader

/-! ## Reads of the wire format -/

/-- To take bytes is to look at those and no others. -/
theorem take_looksAtFront (n : Nat) : (take n).LooksAtFront := by
  intro input taken rest h
  obtain ⟨hlen, rfl⟩ := take_eq_ok h
  subst hlen
  refine ⟨taken, rfl, fun rest => take_append taken rest, fun short hshort hne => ?_⟩
  have hlt : short.length < taken.length :=
    Nat.lt_of_le_of_ne hshort.length_le fun heq => hne (hshort.eq_of_length heq)
  exact if_neg (Nat.not_le.mpr hlt)

namespace Varint

/-- A varint is taken byte by byte, and none of its bytes but the last can be the last of the
input. -/
theorem groups_looksAtFront : ∀ budget, (groups budget).LooksAtFront
  | 0, _, _, _, h => by cases h
  | _ + 1, [], _, _, h => by cases h
  | budget + 1, b :: input, n, rest, h => by
    unfold groups at h
    split at h
    next hb =>
      cases h
      refine ⟨[b], rfl, fun rest => if_pos hb, fun short hshort hne => ?_⟩
      rcases List.prefix_cons_iff.mp hshort with rfl | ⟨_, rfl, hnil⟩
      · rfl
      · exact absurd (by rw [List.prefix_nil.mp hnil]) hne
    next hb =>
      cases hr : groups budget input with
      | error e => rw [hr] at h; cases h
      | ok p =>
        rw [hr] at h
        cases h
        obtain ⟨front, hinput, htakes⟩ := groups_looksAtFront budget hr
        refine ⟨b :: front, congrArg (b :: ·) hinput, fun rest => ?_, fun short hshort hne => ?_⟩
        · rw [List.cons_append, groups, if_neg hb, htakes.read]
        · rcases List.prefix_cons_iff.mp hshort with rfl | ⟨short, rfl, hbehind⟩
          · rfl
          · rw [groups, if_neg hb, htakes.cut hbehind fun heq => hne (by rw [heq])]

/-- A varint is read from its own bytes. -/
theorem read_looksAtFront : read.LooksAtFront := (groups_looksAtFront maxBytes).map _

end Varint

/-- A word is read from its own bytes. -/
theorem Fixed.read_looksAtFront (width : Nat) : (Fixed.read width).LooksAtFront :=
  (take_looksAtFront width).map _

/-- A block is read from its own bytes, its length among them. -/
theorem Delimited.read_looksAtFront : Delimited.read.LooksAtFront :=
  Varint.read_looksAtFront.andThen fun n => take_looksAtFront n.toNat

/-- Taking bytes is refused only where the input ends too soon. -/
theorem take_refusesAtFront (n : Nat) : (take n).RefusesAtFront :=
  fun _ _ he hne _ => absurd (take_eq_error he) hne

/-- A varint that is too long is so by its first bytes. -/
theorem Varint.groups_refusesAtFront : ∀ budget, (groups budget).RefusesAtFront
  | 0, _, _, he, _, _ => he
  | _ + 1, [], _, he, hne, _ => absurd (Except.error.inj he).symm hne
  | budget + 1, b :: input, e, he, hne, more => by
    unfold groups at he
    split at he
    next => cases he
    next hb =>
      cases hr : groups budget input with
      | ok p => rw [hr] at he; cases he
      | error e' =>
        rw [hr] at he
        cases he
        rw [List.cons_append, groups, if_neg hb, groups_refusesAtFront budget hr hne more]

/-- A varint that is too long is refused whatever stands behind it. -/
theorem Varint.read_refusesAtFront : Varint.read.RefusesAtFront :=
  (groups_refusesAtFront maxBytes).map _

/-- A word is refused only where the input ends too soon. -/
theorem Fixed.read_refusesAtFront (width : Nat) : (Fixed.read width).RefusesAtFront :=
  (take_refusesAtFront width).map _

/-- A block is refused for its length, if the input does not end too soon. -/
theorem Delimited.read_refusesAtFront : Delimited.read.RefusesAtFront :=
  Varint.read_refusesAtFront.andThen Varint.read_looksAtFront fun n => take_refusesAtFront n.toNat

end Wiregen.Wire
