import Mathlib.Logic.Nontrivial.Defs
import Mathlib.Tactic.ByContra

/-! Functions of a memory that depend only on the part of it below a bound. -/

section
variable {β γ δ : Type} {n m : Nat} {p q r : Nat → β}

/-- The memories are equal below `n`. -/
def AgreeBelow (n : Nat) (p q : Nat → β) : Prop := ∀ i < n, p i = q i

theorem AgreeBelow.refl : AgreeBelow n p p := fun _ _ => rfl

/-- `f` has the same value on every memory that agrees with `p` below `n`. -/
def DependsBelow (n : Nat) (f : (Nat → β) → γ) (p : Nat → β) : Prop := ∀ q, AgreeBelow n p q → f q = f p

theorem dependsBelow_const {c : γ} : DependsBelow n (fun _ => c) p := fun _ _ => rfl

/-- Where two functions are the same on all these memories, they depend on the same part. -/
theorem dependsBelow_congr {f g : (Nat → β) → γ} (h : ∀ q, AgreeBelow n p q → f q = g q) :
    DependsBelow n f p ↔ DependsBelow n g p := by
  constructor
  · intro hf q hq
    rw [← h q hq, ← h p .refl, hf q hq]
  · intro hg q hq
    rw [h q hq, h p .refl, hg q hq]

theorem DependsBelow.map {f : (Nat → β) → γ} (h : DependsBelow n f p) (g : γ → δ) : DependsBelow n (fun q => g (f q)) p :=
  fun q hq => congrArg g (h q hq)

/-- Two of these memories with different values show that `f` looks above the bound. -/
theorem not_dependsBelow {f : (Nat → β) → γ} (hq : AgreeBelow n p q) (hr : AgreeBelow n p r) (h : f q ≠ f r) :
    ¬DependsBelow n f p := fun hf => h ((hf q hq).trans (hf r hr).symm)

theorem DependsBelow.of_map {f : (Nat → β) → γ} {g : γ → δ} (inj : ∀ {x y : γ}, g x = g y → x = y)
    (h : DependsBelow n (fun q => g (f q)) p) : DependsBelow n f p := fun q hq => inj (h q hq)

/-! ### A field -/

/-- The `w` cells from `pos` on hold `e`. -/
def fieldHolds [DecidableEq β] (pos w : Nat) (e p : Nat → β) : Bool := decide (∀ i < w, p (pos + i) = e i)

/-- `p` with the `w` cells from `pos` on replaced by `e`, as far as they are not below `n`. -/
def overwriteFrom (n pos w : Nat) (e p : Nat → β) : Nat → β :=
  fun i => if n ≤ i ∧ pos ≤ i ∧ i < pos + w then e (i - pos) else p i

theorem agreeBelow_overwriteFrom {pos w : Nat} {e : Nat → β} : AgreeBelow n p (overwriteFrom n pos w e p) := by
  intro i hi
  simp [overwriteFrom, Nat.not_le.mpr hi]

theorem overwriteFrom_apply {pos w i : Nat} {e : Nat → β} (hn : n ≤ pos + i) (hi : i < w) :
    overwriteFrom n pos w e p (pos + i) = e i := by
  simp [overwriteFrom, hn, hi]

/-- Every cell of the field is below the bound, or one that is differs from `e` already. -/
def FieldDecided (n : Nat) (p : Nat → β) (pos w : Nat) (e : Nat → β) : Prop :=
  pos + w ≤ n ∨ ∃ i < w, pos + i < n ∧ p (pos + i) ≠ e i

variable [DecidableEq β]

theorem fieldHolds_eq_true {pos w : Nat} {e : Nat → β} : fieldHolds pos w e p = true ↔ ∀ i < w, p (pos + i) = e i :=
  decide_eq_true_iff

theorem fieldHolds_congr {pos w : Nat} {e : Nat → β} (h : ∀ i < w, p (pos + i) = q (pos + i)) :
    fieldHolds pos w e p = fieldHolds pos w e q := by
  simp +contextual [fieldHolds, h]

/-- A comparison of a field with `e` depends on the part below the bound exactly when that decides it. -/
theorem dependsBelow_field [Nontrivial β] {pos w : Nat} {e : Nat → β} (hw : 0 < w) :
    DependsBelow n (fieldHolds pos w e) p ↔ FieldDecided n p pos w e := by
  constructor
  · intro hdep
    by_contra hfree
    obtain ⟨hlong, hsame⟩ : n < pos + w ∧ ∀ i < w, pos + i < n → p (pos + i) = e i := by
      simpa [FieldDecided] using hfree
    have hmatch : ∀ i < w, overwriteFrom n pos w e p (pos + i) = e i := fun i hi => by
      by_cases hn : n ≤ pos + i
      · exact overwriteFrom_apply hn hi
      · simp [overwriteFrom, hn, hsame i hi (Nat.lt_of_not_le hn)]
    -- The last cell of the field is free: let it differ.
    obtain ⟨c, hc⟩ := exists_ne (e (w - 1))
    have hdiffer : ¬∀ i < w, overwriteFrom n pos w (fun _ => c) p (pos + i) = e i := fun h => by
      have hlast := h (w - 1) (by omega)
      rw [overwriteFrom_apply (by omega) (by omega)] at hlast
      exact hc hlast
    refine not_dependsBelow (q := overwriteFrom n pos w e p) (r := overwriteFrom n pos w (fun _ => c) p)
      agreeBelow_overwriteFrom agreeBelow_overwriteFrom ?_ hdep
    rw [fieldHolds, fieldHolds, decide_eq_true hmatch, decide_eq_false hdiffer]
    exact Bool.noConfusion
  · rintro (hshort | ⟨i, hi, hn, hne⟩) q hq
    · exact fieldHolds_congr fun i hi => (hq _ (by omega)).symm
    · have hfalse : ∀ q, AgreeBelow n p q → fieldHolds pos w e q = false := fun q hq =>
        decide_eq_false fun h => hne ((hq _ hn).trans (h i hi))
      exact (hfalse q hq).trans (hfalse p .refl).symm

end
