import Mathlib.Data.Nat.ModEq
import Mathlib.Data.Nat.Digits.Lemmas

/-! One's complement sums: words are added with end-around carry, a word being a number below `B`. What a sum
    with a complemented word in it verifies, and why the order of the digits in the words does not matter. -/

namespace OnesComplement

/-- Adds what is above the low word to the low word. -/
def carry (B n : Nat) : Nat := n % B + n / B

/-- Addition with end-around carry. -/
def add (B a b : Nat) : Nat := carry B (a + b)

/-- The end-around-carry sum of words. -/
def sum (B : Nat) (l : List Nat) : Nat := l.foldl (add B) 0

/-- `r` is the word that stands for `n`: the residue modulo `B - 1`, where zero stands for zero alone and
    `B - 1` for the other multiples of `B - 1`. -/
structure Folds (B n r : Nat) : Prop where
  lt : r < B
  modEq : r ≡ n [MOD B - 1]
  zero : r = 0 ↔ n = 0

variable {B b m n r r' x : Nat} {l k : List Nat}

theorem carry_add_mul (n : Nat) (hB : 0 < B) : carry B n + (B - 1) * (n / B) = n := by
  calc carry B n + (B - 1) * (n / B)
      = n % B + ((B - 1) * (n / B) + 1 * (n / B)) := by rw [carry]; omega
    _ = n % B + B * (n / B) := by rw [← Nat.add_mul, Nat.sub_add_cancel hB]
    _ = n := Nat.mod_add_div n B

theorem carry_modEq (hB : 0 < B) : carry B n ≡ n [MOD B - 1] := by
  have h : carry B n + (B - 1) * (n / B) ≡ carry B n [MOD B - 1] := Nat.add_mul_mod_self_left ..
  rw [carry_add_mul n hB] at h
  exact h.symm

theorem carry_eq_zero : carry B n = 0 ↔ n = 0 := by
  constructor
  · intro h
    have hmod : n % B = 0 := (Nat.add_eq_zero_iff.mp h).1
    have hdiv : n / B = 0 := (Nat.add_eq_zero_iff.mp h).2
    rw [← Nat.mod_add_div n B, hmod, hdiv, Nat.mul_zero]
  · rintro rfl
    simp [carry]

namespace Folds

/-- A word stands for itself. -/
theorem self (h : n < B) : Folds B n n := ⟨h, rfl, Iff.rfl⟩

theorem pos (h : Folds B n r) : 0 < B := Nat.lt_of_le_of_lt (Nat.zero_le r) h.lt

/-- Adding the carry to the low word changes nothing of what the sum stands for. -/
theorem of_carry (h : Folds B (carry B n) r) : Folds B n r where
  lt := h.lt
  modEq := h.modEq.trans (carry_modEq h.pos)
  zero := h.zero.trans (carry_eq_zero)

theorem of_modEq (h : Folds B n r) (hmod : n ≡ m [MOD B - 1]) (hzero : n = 0 ↔ m = 0) : Folds B m r where
  lt := h.lt
  modEq := h.modEq.trans hmod
  zero := h.zero.trans hzero

theorem add (h : Folds B n r) (hx : x < B) : Folds B (n + x) (add B r x) where
  lt := by
    have hr := h.lt
    rcases Nat.lt_or_ge (r + x) B with hlt | hge
    · rw [OnesComplement.add, carry, Nat.mod_eq_of_lt hlt, Nat.div_eq_of_lt hlt]
      exact hlt
    · have hdiv : (r + x) / B = 1 := by
        rw [Nat.div_eq_sub_div h.pos hge, Nat.div_eq_of_lt (by omega)]
      have hmod : (r + x) % B = r + x - B := by
        rw [Nat.mod_eq_sub_mod hge, Nat.mod_eq_of_lt (by omega)]
      rw [OnesComplement.add, carry, hdiv, hmod]
      omega
  modEq := (carry_modEq h.pos).trans (h.modEq.add_right x)
  zero := by
    rw [OnesComplement.add, carry_eq_zero, Nat.add_eq_zero_iff, Nat.add_eq_zero_iff, h.zero]

/-- Two words that are congruent modulo `B - 1` are equal, or they are zero and `B - 1`. -/
theorem unique (h : Folds B n r) (h' : Folds B n r') : r = r' := by
  have hzero : r = 0 ↔ r' = 0 := h.zero.trans h'.zero.symm
  have hmod : r % (B - 1) = r' % (B - 1) := h.modEq.trans h'.modEq.symm
  have hlt := h.lt
  have hlt' := h'.lt
  rcases Nat.lt_or_ge r (B - 1) with hr | hr <;> rcases Nat.lt_or_ge r' (B - 1) with hr' | hr'
  · rwa [Nat.mod_eq_of_lt hr, Nat.mod_eq_of_lt hr'] at hmod
  · obtain rfl : r' = B - 1 := by omega
    rw [Nat.mod_eq_of_lt hr, Nat.mod_self] at hmod
    rw [hmod, hzero.mp hmod]
  · obtain rfl : r = B - 1 := by omega
    rw [Nat.mod_eq_of_lt hr', Nat.mod_self] at hmod
    rw [← hmod, hzero.mpr hmod.symm]
  · omega

/-- The word of all ones stands for the multiples of `B - 1` other than zero. -/
theorem eq_max_iff (hB : 1 < B) (h : Folds B n r) : r = B - 1 ↔ n ≠ 0 ∧ B - 1 ∣ n := by
  constructor
  · rintro rfl
    refine ⟨fun hn => ?_, (Nat.modEq_zero_iff_dvd.mp ?_)⟩
    · have := h.zero.mpr hn
      omega
    · exact h.modEq.symm.trans (Nat.mod_self _)
  · rintro ⟨hne, hdvd⟩
    have hmod : r ≡ 0 [MOD B - 1] := h.modEq.trans (Nat.modEq_zero_iff_dvd.mpr hdvd)
    have hr : r ≠ 0 := fun hr => hne (h.zero.mp hr)
    have hle : B - 1 ≤ r := Nat.le_of_dvd (Nat.pos_of_ne_zero hr) (Nat.modEq_zero_iff_dvd.mp hmod)
    have hlt := h.lt
    omega

/-- A sum and the complement of the word that stands for it. -/
theorem dvd_add_complement (h : Folds B n r) : B - 1 ∣ n + (B - 1 - r) := by
  have hlt := h.lt
  have heq : r + (B - 1 - r) = B - 1 := by omega
  refine Nat.modEq_zero_iff_dvd.mp ((h.modEq.symm.add_right _).trans ?_)
  rw [heq]
  exact Nat.mod_self _

theorem add_complement_ne_zero (hB : 1 < B) (h : Folds B n r) : n + (B - 1 - r) ≠ 0 := by
  intro heq
  have hn : r = 0 := h.zero.mpr (Nat.add_eq_zero_iff.mp heq).1
  omega

end Folds

theorem foldl_folds (hl : ∀ x ∈ l, x < B) (h : Folds B n r) : Folds B (n + l.sum) (l.foldl (add B) r) := by
  induction l generalizing n r with
  | nil => exact h
  | cons x l ih =>
    rw [List.sum_cons, ← Nat.add_assoc, List.foldl_cons]
    exact ih (fun y hy => hl y (List.mem_cons_of_mem x hy)) (h.add (hl x List.mem_cons_self))

/-- The end-around-carry sum stands for the sum. -/
theorem sum_folds (hB : 0 < B) (hl : ∀ x ∈ l, x < B) : Folds B l.sum (sum B l) := by
  have h := foldl_folds hl (Folds.self hB)
  rwa [Nat.zero_add] at h

theorem sum_digits_eq_zero : (Nat.digits B n).sum = 0 ↔ n = 0 := by
  constructor
  · intro h
    by_contra hn
    have hne : Nat.digits B n ≠ [] := Nat.digits_ne_nil_iff_ne_zero.mpr hn
    exact Nat.getLast_digit_ne_zero B hn (List.sum_eq_zero_iff_forall_eq_nat.mp h _ (List.getLast_mem hne))
  · rintro rfl
    simp

/-- The digits of a number stand for it among the words. -/
theorem sum_digits_folds (hB : 2 < B) (hl : ∀ x ∈ l, x < B) : Folds B (n + l.sum) (sum B (Nat.digits B n ++ l)) := by
  have hlt : ∀ x ∈ Nat.digits B n ++ l, x < B := fun x hx =>
    (List.mem_append.mp hx).elim (Nat.digits_lt_base (by omega)) (hl x)
  have hmod : B % (B - 1) = 1 := by
    rw [Nat.mod_eq_sub_mod (by omega), Nat.mod_eq_of_lt (by omega)]
    omega
  have h := sum_folds (by omega) hlt
  rw [List.sum_append] at h
  refine h.of_modEq ((Nat.modEq_digits_sum _ _ hmod n).symm.add_right _) ?_
  rw [Nat.add_eq_zero_iff, Nat.add_eq_zero_iff, sum_digits_eq_zero]

theorem sum_eq_max_iff (hB : 1 < B) (hl : ∀ x ∈ l, x < B) : sum B l = B - 1 ↔ l.sum ≠ 0 ∧ B - 1 ∣ l.sum :=
  (sum_folds (Nat.zero_lt_of_lt hB) hl).eq_max_iff hB

/-! ### Words of two digits -/

/-- The words of two digits, the high digit first. A zero digit follows a single last digit. -/
def bigEndian (b : Nat) : List Nat → List Nat
  | x :: y :: l => (b * x + y) :: bigEndian b l
  | [x] => [b * x]
  | [] => []

/-- The words of two digits, the low digit first. A zero digit follows a single last digit. -/
def littleEndian (b : Nat) : List Nat → List Nat
  | x :: y :: l => (x + b * y) :: littleEndian b l
  | [x] => [x]
  | [] => []

/-- A word of two digits, `x` the low one. -/
theorem word_lt {y : Nat} (hx : x < b) (hy : y < b) : x + b * y < b * b :=
  calc x + b * y < b * (y + 1) := by rw [Nat.mul_succ]; omega
    _ ≤ b * b := Nat.mul_le_mul_left b hy

theorem bigEndian_lt (hl : ∀ x ∈ l, x < b) : ∀ w ∈ bigEndian b l, w < b * b := by
  fun_induction bigEndian b l with
  | case1 x y l ih =>
    rw [List.forall_mem_cons, List.forall_mem_cons] at hl
    obtain ⟨hx, hy, hl⟩ := hl
    refine List.forall_mem_cons.mpr ⟨?_, ih hl⟩
    rw [Nat.add_comm]
    exact word_lt hy hx
  | case2 x =>
    intro w hw
    rw [List.mem_singleton.mp hw]
    have hx : x < b := hl x List.mem_cons_self
    exact Nat.mul_lt_mul_of_pos_left hx (Nat.zero_lt_of_lt hx)
  | case3 =>
    intro w hw
    cases hw

theorem littleEndian_lt (hl : ∀ x ∈ l, x < b) : ∀ w ∈ littleEndian b l, w < b * b := by
  fun_induction littleEndian b l with
  | case1 x y l ih =>
    rw [List.forall_mem_cons, List.forall_mem_cons] at hl
    obtain ⟨hx, hy, hl⟩ := hl
    exact List.forall_mem_cons.mpr ⟨word_lt hx hy, ih hl⟩
  | case2 x =>
    intro w hw
    rw [List.mem_singleton.mp hw]
    have hx : x < b := hl x List.mem_cons_self
    exact Nat.lt_of_lt_of_le hx (Nat.le_mul_self b)
  | case3 =>
    intro w hw
    cases hw

theorem littleEndian_append (h : l.length % 2 = 0) : littleEndian b (l ++ k) = littleEndian b l ++ littleEndian b k := by
  fun_induction littleEndian b l with
  | case1 x y l ih =>
    rw [List.length_cons, List.length_cons] at h
    rw [List.cons_append, List.cons_append, littleEndian, ih (by omega), List.cons_append]
  | case2 x => cases h
  | case3 => rfl

theorem bigEndian_append (h : l.length % 2 = 0) : bigEndian b (l ++ k) = bigEndian b l ++ bigEndian b k := by
  fun_induction bigEndian b l with
  | case1 x y l ih =>
    rw [List.length_cons, List.length_cons] at h
    rw [List.cons_append, List.cons_append, bigEndian, ih (by omega), List.cons_append]
  | case2 x => cases h
  | case3 => rfl

theorem modEq_mul_self (hb : 0 < b) : b * (b * n) ≡ n [MOD b * b - 1] := by
  have hpos : 0 < b * b := Nat.mul_pos hb hb
  have heq : b * (b * n) = n + (b * b - 1) * n := by
    rw [← Nat.mul_assoc, Nat.add_comm, ← Nat.succ_mul, Nat.succ_eq_add_one, Nat.sub_add_cancel hpos]
  rw [heq]
  exact Nat.add_mul_mod_self_left ..

/-- Exchanging the digits of every word multiplies the sum by `b`. -/
theorem bigEndian_modEq (hb : 0 < b) : (bigEndian b l).sum ≡ b * (littleEndian b l).sum [MOD b * b - 1] := by
  fun_induction bigEndian b l with
  | case1 x y l ih =>
    rw [littleEndian, List.sum_cons, List.sum_cons, Nat.mul_add, Nat.mul_add]
    exact ((modEq_mul_self hb).symm.add_left _).add ih
  | case2 x => rfl
  | case3 => rfl

theorem bigEndian_eq_zero (hb : 0 < b) : (bigEndian b l).sum = 0 ↔ (littleEndian b l).sum = 0 := by
  fun_induction bigEndian b l with
  | case1 x y l ih => simp [littleEndian, ih, Nat.ne_of_gt hb]
  | case2 x => simp [littleEndian, Nat.ne_of_gt hb]
  | case3 => rfl

/-- Congruent in one order of the digits, congruent in the other. -/
theorem bigEndian_modEq_iff (hb : 0 < b) : (bigEndian b l).sum ≡ (bigEndian b k).sum [MOD b * b - 1] ↔
    (littleEndian b l).sum ≡ (littleEndian b k).sum [MOD b * b - 1] := by
  have hl := bigEndian_modEq (l := l) hb
  have hk := bigEndian_modEq (l := k) hb
  constructor
  · intro h
    have hmul := ((hl.symm.trans h).trans hk).mul_left b
    exact ((modEq_mul_self hb).symm.trans hmul).trans (modEq_mul_self hb)
  · intro h
    exact (hl.trans (h.mul_left b)).trans hk.symm

/-- The sum of the words is all ones in one order of the digits when it is in the other. -/
theorem sum_bigEndian_eq_max_iff (hb : 1 < b) (hl : ∀ x ∈ l, x < b) : sum (b * b) (bigEndian b l) = b * b - 1 ↔
    (littleEndian b l).sum ≠ 0 ∧ b * b - 1 ∣ (littleEndian b l).sum := by
  have hpos : 0 < b := Nat.zero_lt_of_lt hb
  have hB : 1 < b * b := Nat.one_lt_mul_iff.mpr ⟨hpos, hpos, .inl hb⟩
  rw [sum_eq_max_iff hB (bigEndian_lt hl), Ne, Ne, bigEndian_eq_zero hpos]
  refine and_congr_right fun _ => ?_
  rw [← Nat.modEq_zero_iff_dvd, ← Nat.modEq_zero_iff_dvd]
  exact bigEndian_modEq_iff (k := []) hpos

end OnesComplement
