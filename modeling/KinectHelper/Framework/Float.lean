import Mathlib.Algebra.Order.Field.Power
import Mathlib.Data.Int.Log
import Mathlib.Data.Rat.Floor
import Mathlib.Tactic.Linarith
import Mathlib.Tactic.NormNum
import Mathlib.Tactic.Positivity
import Mathlib.Tactic.Ring

namespace KinectHelper

/-- The integer nearest to `q`, and the even one on a tie. -/
def roundEven (q : ℚ) : ℤ :=
  if q - ⌊q⌋ < 1 / 2 ∨ (q - ⌊q⌋ = 1 / 2 ∧ ⌊q⌋ % 2 = 0) then ⌊q⌋ else ⌊q⌋ + 1

/-- Rounded to `p` significant bits; the exponents have no bounds. -/
def roundFloat (p : ℕ) (q : ℚ) : ℚ :=
  if q = 0 then 0
  else
    let e := Int.log 2 |q| + 1 - p
    roundEven (q / 2^e) * 2^e

theorem abs_roundEven_sub_le (q : ℚ) : |(roundEven q : ℚ) - q| ≤ 1 / 2 := by
  have hlo := Int.floor_le q
  have hhi := Int.lt_floor_add_one q
  unfold roundEven
  split_ifs with hdown
  · have hclose : q - ⌊q⌋ ≤ 1 / 2 := by
      rcases hdown with hlt | ⟨htie, _⟩
      · exact hlt.le
      · exact htie.le
    rw [abs_le]
    constructor <;> linarith
  · have hfar : 1 / 2 ≤ q - ⌊q⌋ := by
      by_contra hlt
      exact hdown (Or.inl (lt_of_not_ge hlt))
    push_cast
    rw [abs_le]
    constructor <;> linarith

theorem roundEven_intCast (n : ℤ) : roundEven n = n := by
  unfold roundEven
  rw [Int.floor_intCast, sub_self, if_pos (Or.inl (by norm_num))]

/-- Half a unit in the last place is at most `2^(-p)` of the number. -/
theorem abs_roundFloat_sub_le (p : ℕ) (q : ℚ) : |roundFloat p q - q| ≤ 1 / 2^p * |q| := by
  unfold roundFloat
  split_ifs with hzero
  · simp [hzero]
  · dsimp only
    have hpos : 0 < |q| := abs_pos.mpr hzero
    set e : ℤ := Int.log 2 |q| + 1 - p with he
    have hunit : (0 : ℚ) < 2^e := by positivity
    have hlog : (2 : ℚ)^(Int.log 2 |q|) ≤ |q| := by
      exact_mod_cast Int.zpow_log_le_self (b := 2) (by decide) hpos
    have hsplit : (2 : ℚ)^e = 2 * 2^(Int.log 2 |q|) * (1 / 2^p) := by
      rw [he, zpow_sub₀ two_ne_zero, zpow_add_one₀ two_ne_zero, zpow_natCast]
      ring
    have hround := abs_roundEven_sub_le (q / 2^e)
    calc |(roundEven (q / 2^e) : ℚ) * 2^e - q|
        = |(roundEven (q / 2^e) : ℚ) - q / 2^e| * 2^e := by
          rw [← abs_of_pos hunit, ← abs_mul, abs_of_pos hunit, sub_mul,
            div_mul_cancel₀ _ hunit.ne']
      _ ≤ 1 / 2 * 2^e := mul_le_mul_of_nonneg_right hround hunit.le
      _ = 1 / 2^p * 2^(Int.log 2 |q|) := by rw [hsplit]; ring
      _ ≤ 1 / 2^p * |q| := mul_le_mul_of_nonneg_left hlog (by positivity)

/-- A number of at most `p` bits is not changed. -/
theorem roundFloat_exact {p : ℕ} {m : ℤ} (k : ℤ) (hm : |m| < 2^p) :
    roundFloat p (m * 2^k) = m * 2^k := by
  unfold roundFloat
  split_ifs with hzero
  · exact hzero.symm
  · dsimp only
    set q : ℚ := m * 2^k with hq
    have hpos : 0 < |q| := abs_pos.mpr hzero
    have hlog : Int.log 2 |q| < p + k := by
      apply (Int.lt_zpow_iff_log_lt (by decide) hpos).mp
      have hm' : |(m : ℚ)| < 2^p := by exact_mod_cast hm
      rw [hq, abs_mul, abs_of_pos (show (0 : ℚ) < 2^k by positivity)]
      push_cast
      rw [zpow_add₀ two_ne_zero, zpow_natCast]
      exact mul_lt_mul_of_pos_right hm' (by positivity)
    set e : ℤ := Int.log 2 |q| + 1 - p with he
    have hunit : (2 : ℚ)^e ≠ 0 := by positivity
    obtain ⟨n, hn⟩ := Int.eq_ofNat_of_zero_le (show 0 ≤ k - e by omega)
    have hquot : q / 2^e = ((m * 2^n : ℤ) : ℚ) := by
      rw [hq, div_eq_iff hunit]
      push_cast
      rw [mul_assoc, ← zpow_natCast (2 : ℚ) n, ← zpow_add₀ two_ne_zero]
      congr 2
      omega
    rw [hquot, roundEven_intCast, ← hquot, div_mul_cancel₀ _ hunit]

/-- `y` is `x` up to the relative error `u`. -/
def Approx (u x y : ℚ) : Prop := |y - x| ≤ u * |x|

theorem approx_roundFloat (p : ℕ) (q : ℚ) : Approx (1 / 2^p) q (roundFloat p q) :=
  abs_roundFloat_sub_le p q

namespace Approx

variable {u v x y z c d : ℚ}

theorem mono (h : Approx u x y) (huv : u ≤ v) : Approx v x y :=
  le_trans h (mul_le_mul_of_nonneg_right huv (abs_nonneg x))

theorem abs_le (h : Approx u x y) : |y| ≤ (1 + u) * |x| := by
  have hsum := abs_add_le (y - x) x
  rw [sub_add_cancel] at hsum
  unfold Approx at h
  linarith

theorem le_abs (h : Approx u x y) : (1 - u) * |x| ≤ |y| := by
  have hsum := abs_add_le (x - y) y
  rw [sub_add_cancel, abs_sub_comm] at hsum
  unfold Approx at h
  linarith

theorem pos (h : Approx u x y) (hu : u < 1) (hx : 0 < x) : 0 < y := by
  unfold Approx at h
  rw [abs_of_pos hx] at h
  have hless : u * x < x := mul_lt_of_lt_one_left hx hu
  linarith [neg_abs_le (y - x)]

theorem mul_right (h : Approx u x y) (c : ℚ) : Approx u (x * c) (y * c) := by
  unfold Approx at h ⊢
  rw [← sub_mul, abs_mul, abs_mul, ← mul_assoc]
  exact mul_le_mul_of_nonneg_right h (abs_nonneg c)

/-- Errors add up, with their product. -/
theorem trans (h : Approx u x y) (k : Approx v y z) (hv : 0 ≤ v) :
    Approx (u + v + u * v) x z := by
  have hy := mul_le_mul_of_nonneg_left h.abs_le hv
  have hsum := abs_add_le (z - y) (y - x)
  rw [sub_add_sub_cancel] at hsum
  unfold Approx at h k ⊢
  linarith

/-- The error of a quotient is that of the dividend and of the divisor. -/
theorem div (h : Approx u x y) (k : Approx v c d) (hv : v < 1) (hc : c ≠ 0) :
    Approx ((u + v) / (1 - v)) (x / c) (y / d) := by
  have hcpos : 0 < |c| := abs_pos.mpr hc
  have hv' : 0 < 1 - v := by linarith
  have hlow : (1 - v) * |c| ≤ |d| := k.le_abs
  have hdpos : 0 < |d| := lt_of_lt_of_le (mul_pos hv' hcpos) hlow
  have hd : d ≠ 0 := abs_pos.mp hdpos
  have hnum : |(y - x) * c - x * (d - c)| ≤ (u + v) * (|x| * |c|) := by
    have hsum := abs_sub ((y - x) * c) (x * (d - c))
    rw [abs_mul, abs_mul] at hsum
    have hleft := mul_le_mul_of_nonneg_right h (abs_nonneg c)
    have hright := mul_le_mul_of_nonneg_left k (abs_nonneg x)
    linarith
  have hdiff : y / d - x / c = ((y - x) * c - x * (d - c)) / (d * c) := by
    rw [div_sub_div _ _ hd hc]
    ring
  unfold Approx
  rw [hdiff, abs_div, abs_mul, div_le_iff₀ (mul_pos hdpos hcpos), abs_div]
  have hfactor : 0 ≤ (u + v) / (1 - v) * (|x| / |c|) := by
    rw [show (u + v) / (1 - v) * (|x| / |c|) =
      (u + v) * (|x| * |c|) / ((1 - v) * (|c| * |c|)) by field_simp]
    exact div_nonneg (le_trans (abs_nonneg _) hnum) (by positivity)
  calc |(y - x) * c - x * (d - c)|
      ≤ (u + v) * (|x| * |c|) := hnum
    _ = (u + v) / (1 - v) * (|x| / |c|) * ((1 - v) * |c| * |c|) := by
        field_simp
    _ ≤ (u + v) / (1 - v) * (|x| / |c|) * (|d| * |c|) :=
        mul_le_mul_of_nonneg_left (mul_le_mul_of_nonneg_right hlow hcpos.le) hfactor

end Approx

end KinectHelper
