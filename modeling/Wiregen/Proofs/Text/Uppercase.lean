import Wiregen.Proofs.Text.Identifier
import Wiregen.Text.Uppercase

/-!
# What upper case makes

Upper case makes capital letters and characters beyond ASCII, and leaves what has none as it is. So
no separator comes out of it that did not go in (`mem_of_mem_upper`).
-/

namespace Wiregen.Text

/-- Capital letters and the characters beyond ASCII. -/
def IsRaised (c : Char) : Prop := 65 ≤ c.toNat ∧ c.toNat ≤ 90 ∨ 128 ≤ c.toNat

instance : DecidablePred IsRaised := fun _ => inferInstanceAs (Decidable (_ ∨ _))

/-- The upper case of an ASCII character is itself or a capital letter. -/
theorem toUpper_eq_or_isRaised : ∀ n < 128,
    (Char.ofNat n).toUpper = Char.ofNat n ∨ IsRaised (Char.ofNat n).toUpper := by
  decide

/-- Upper case of several characters has none but raised ones. -/
theorem isRaised_expansion : ∀ entry ∈ caseExpansions, ∀ n ∈ entry.2, IsRaised (Char.ofNat n) := by
  decide

/-- The upper case of each run is among the capital letters or beyond ASCII, and in the latter case
all on one side of the code points that are no characters. -/
theorem raised_run : ∀ run ∈ caseRuns,
    65 ≤ run.first + run.shift ∧ run.last + run.shift ≤ 90 ∨
    128 ≤ run.first + run.shift ∧ run.last + run.shift < 0xD800 ∨
    0xDFFF < run.first + run.shift ∧ run.last + run.shift < 0x110000 := by
  decide +kernel

/-- The upper case of a letter in a run is raised. -/
theorem isRaised_shifted {run : CaseRun} (hrun : run ∈ caseRuns) {n : Nat} (hn : run.contains n) :
    IsRaised (Char.ofNat (n + run.shift).toNat) := by
  simp only [CaseRun.contains, Bool.and_eq_true, decide_eq_true_eq] at hn
  have hraised := raised_run run hrun
  have hvalid : Nat.isValidChar (n + run.shift).toNat := by
    unfold Nat.isValidChar
    omega
  have hcode : (Char.ofNat (n + run.shift).toNat).toNat = (n + run.shift).toNat := by
    rw [Char.ofNat, dif_pos hvalid]
    rfl
  rw [IsRaised, hcode]
  omega

/-- The upper case of a character is itself or raised. -/
theorem mem_upper {c d : Char} (h : d ∈ upper c) : d = c ∨ IsRaised d := by
  unfold upper at h
  split at h
  next hascii =>
    rw [List.mem_singleton] at h
    subst h
    rw [← Char.ofNat_toNat c]
    exact toUpper_eq_or_isRaised c.toNat hascii
  next =>
    split at h
    next expansion hexpansion =>
      obtain ⟨n, hn, rfl⟩ := List.mem_map.mp h
      obtain ⟨before, after, hsplit, -⟩ := List.lookup_eq_some_iff.mp hexpansion
      exact .inr (isRaised_expansion (c.toNat, expansion) (by simp [hsplit]) n hn)
    next =>
      split at h
      next run hrun =>
        rw [List.mem_singleton] at h
        subst h
        have hcontains : run.contains c.toNat := by simpa using List.find?_some hrun
        exact .inr (isRaised_shifted (List.mem_of_find?_eq_some hrun) hcontains)
      next => exact .inl (List.mem_singleton.mp h)

/-- The upper case of an ASCII letter or digit is one. -/
theorem isAlphanum_toUpper : ∀ n < 128, (Char.ofNat n).isAlphanum →
    (Char.ofNat n).toUpper.isAlphanum := by
  decide

/-- Upper case makes letters and digits of letters and digits. -/
theorem isAlphanum_of_mem_upper {c d : Char} (hc : c.isAlphanum) (h : d ∈ upper c) :
    d.isAlphanum := by
  have hascii := toNat_lt_of_isAlphanum hc
  rw [upper, if_pos hascii, List.mem_singleton] at h
  have hupper := isAlphanum_toUpper c.toNat hascii
  rw [Char.ofNat_toNat] at hupper
  rw [h]
  exact hupper hc

/-- A character that is not raised comes only from itself. -/
theorem mem_of_mem_upper {c sep : Char} (hsep : ¬ IsRaised sep) (h : sep ∈ upper c) : sep = c :=
  (mem_upper h).resolve_right hsep

end Wiregen.Text
