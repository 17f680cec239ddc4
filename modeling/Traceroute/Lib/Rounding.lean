import Mathlib.Algebra.Order.Floor.Ring
import Mathlib.Algebra.Order.Round
import Mathlib.Data.Int.Log
import Mathlib.Data.Rat.Floor
import Mathlib.Tactic.Linarith
import Mathlib.Tactic.NormNum

/-! Rounding to nearest, ties to even: to an integer, and to a binary number with so many bits. The exponents of the binary
    numbers are not bounded. -/

section
variable {K : Type} [Field K] [LinearOrder K] [IsStrictOrderedRing K] [FloorRing K] {x : K} {n : ℤ} {p : ℕ}

/-- The nearest integer, and the even one of two. -/
def roundEven (x : K) : ℤ :=
  if 2 * (x - ⌊x⌋) < 1 ∨ 2 * (x - ⌊x⌋) = 1 ∧ ⌊x⌋ % 2 = 0 then ⌊x⌋ else ⌊x⌋ + 1

/-- It is off by a half at most. -/
theorem abs_roundEven_sub_le : |(roundEven x : K) - x| ≤ 1 / 2 := by
  have hle := Int.floor_le x
  have hlt := Int.lt_floor_add_one x
  rw [abs_le, roundEven]
  split
  · rename_i h
    rcases h with h | ⟨h, -⟩
    · constructor <;> linarith
    · constructor <;> linarith
  · rename_i h
    have hhalf : 1 ≤ 2 * (x - ⌊x⌋) := not_lt.mp fun hlt => h (Or.inl hlt)
    push_cast
    constructor <;> linarith

/-- An integer that is less than a half away is the nearest one. -/
theorem roundEven_eq (h : |x - n| < 1 / 2) : roundEven x = n := by
  have hround := abs_le.mp (abs_roundEven_sub_le (x := x))
  have hnear := abs_lt.mp h
  have hlt : ((roundEven x : ℤ) : K) < ((n + 1 : ℤ) : K) := by
    push_cast
    linarith
  have hgt : ((n - 1 : ℤ) : K) < ((roundEven x : ℤ) : K) := by
    push_cast
    linarith
  have := Int.cast_lt.mp hlt
  have := Int.cast_lt.mp hgt
  omega

@[simp] theorem roundEven_intCast : roundEven (n : K) = n := roundEven_eq (by simp)

/-- The unit in the last place of the numbers with `p` bits at `x`. -/
def ulp (p : ℕ) (x : K) : K := 2 ^ (Int.log 2 |x| + 1 - p)

/-- The nearest number with `p` bits. -/
def roundBinary (p : ℕ) (x : K) : K := roundEven (x / ulp p x) * ulp p x

theorem ulp_pos : 0 < ulp p x := zpow_pos (by norm_num) _

theorem ulp_le {e : ℤ} (h : |x| < 2 ^ e) (hx : x ≠ 0) : ulp p x ≤ 2 ^ (e - p) := by
  have hlog : Int.log 2 |x| < e := (Int.lt_zpow_iff_log_lt Nat.one_lt_two (abs_pos.mpr hx)).mp (by exact_mod_cast h)
  exact zpow_le_zpow_right₀ one_le_two (by omega)

@[simp] theorem roundBinary_zero : roundBinary p (0 : K) = 0 := by simp [roundBinary, roundEven]

omit [IsStrictOrderedRing K] in
theorem roundEven_nonneg (h : 0 ≤ x) : 0 ≤ roundEven x := by
  have hfloor := Int.floor_nonneg.mpr h
  rw [roundEven]
  split <;> omega

theorem roundBinary_nonneg (h : 0 ≤ x) : 0 ≤ roundBinary p x :=
  mul_nonneg (Int.cast_nonneg (roundEven_nonneg (div_nonneg h ulp_pos.le))) ulp_pos.le

theorem ulp_eq {e : ℤ} (hle : 2 ^ e ≤ |x|) (hlt : |x| < 2 ^ (e + 1)) : ulp p x = 2 ^ (e + 1 - p) := by
  have hpos : 0 < |x| := lt_of_lt_of_le (zpow_pos two_pos _) hle
  have hge : e ≤ Int.log 2 |x| := (Int.zpow_le_iff_le_log Nat.one_lt_two hpos).mp (by exact_mod_cast hle)
  have hlog : Int.log 2 |x| < e + 1 := (Int.lt_zpow_iff_log_lt Nat.one_lt_two hpos).mp (by exact_mod_cast hlt)
  rw [ulp, show Int.log 2 |x| = e by omega]

/-- The number with `p` bits that is less than half a unit in the last place away. -/
theorem roundBinary_eq {e : ℤ} (hle : 2 ^ e ≤ |x|) (hlt : |x| < 2 ^ (e + 1)) (hnear : |x / 2 ^ (e + 1 - p) - n| < 1 / 2) :
    roundBinary p x = n * 2 ^ (e + 1 - p) := by
  rw [roundBinary, ulp_eq hle hlt, roundEven_eq hnear]

/-- It is off by half a unit in the last place at most. -/
theorem abs_roundBinary_sub_le : |roundBinary p x - x| ≤ 1 / 2 * ulp p x := by
  have hulp := ulp_pos (p := p) (x := x)
  have hx : x = x / ulp p x * ulp p x := (div_mul_cancel₀ x hulp.ne').symm
  calc |roundBinary p x - x| = |((roundEven (x / ulp p x) : K) - x / ulp p x) * ulp p x| := by rw [sub_mul, ← hx, roundBinary]
    _ = |(roundEven (x / ulp p x) : K) - x / ulp p x| * ulp p x := by rw [abs_mul, abs_of_pos hulp]
    _ ≤ 1 / 2 * ulp p x := mul_le_mul_of_nonneg_right abs_roundEven_sub_le hulp.le

/-- Below `2 ^ e` it is off by half a unit in the last place there. -/
theorem abs_roundBinary_sub_le_of_lt {e : ℤ} (h : |x| < 2 ^ e) : |roundBinary p x - x| ≤ 1 / 2 * 2 ^ (e - p) := by
  by_cases hx : x = 0
  · subst hx
    rw [roundBinary_zero, sub_zero, abs_zero]
    exact mul_nonneg (by norm_num) (zpow_pos two_pos _).le
  · exact le_trans abs_roundBinary_sub_le (mul_le_mul_of_nonneg_left (ulp_le h hx) (by norm_num))

/-- The integers with `p` bits are rounded to themselves. -/
theorem roundBinary_intCast (h : |n| < 2 ^ p) : roundBinary p (n : K) = n := by
  by_cases hn : n = 0
  · subst hn
    simp
  · have hpos : (0 : K) < |(n : K)| := abs_pos.mpr (Int.cast_ne_zero.mpr hn)
    have hlog : Int.log 2 |(n : K)| < p := by
      refine (Int.lt_zpow_iff_log_lt Nat.one_lt_two hpos).mp ?_
      rw [← Int.cast_abs, zpow_natCast]
      exact_mod_cast h
    obtain ⟨k, hk⟩ := Int.eq_ofNat_of_zero_le (show 0 ≤ p - 1 - Int.log 2 |(n : K)| by omega)
    have hulp : ulp p (n : K) = ((2 : K) ^ k)⁻¹ := by
      rw [ulp, show Int.log 2 |(n : K)| + 1 - p = -(k : ℤ) by omega, zpow_neg, zpow_natCast]
    have hdiv : (n : K) / ulp p (n : K) = ((n * 2 ^ k : ℤ) : K) := by
      rw [hulp, div_inv_eq_mul]
      push_cast
      rfl
    rw [roundBinary, hdiv, roundEven_intCast, ← hdiv, div_mul_cancel₀ _ ulp_pos.ne']

end
