import Mathlib.Data.Nat.Log
import Mathlib.Logic.Function.Iterate
import Mathlib.Tactic.Ring

namespace KinectHelper

/-- Round to `p` significant bits: drop the low `e` bits of `n` and round the quotient
to nearest, to even on a tie. -/
def roundSig (p n : Nat) : Nat :=
  let e := n.log2 + 1 - p
  let q := n / 2^e
  let r := n % 2^e
  if 2 * r < 2^e ∨ (2 * r = 2^e ∧ q % 2 = 0) then q * 2^e else (q + 1) * 2^e

theorem roundSig_of_lt {p n : Nat} (h : n < 2^p) : roundSig p n = n := by
  unfold roundSig
  rcases Nat.eq_zero_or_pos n with rfl | hn
  · simp
  · have hlog : n.log2 < p := (Nat.log2_lt (by omega)).mpr h
    have he : n.log2 + 1 - p = 0 := by omega
    simp [he, Nat.mod_one]

theorem roundSig_two_pow {p : Nat} (hp : 1 ≤ p) : roundSig p (2^p) = 2^p := by
  have he : (2^p).log2 + 1 - p = 1 := by rw [Nat.log2_two_pow]; omega
  have hpow : 2^p = 2 * 2^(p-1) := by rw [← Nat.pow_succ']; congr 1; omega
  unfold roundSig
  rw [he]
  simp only [Nat.pow_one]
  rw [hpow]
  simp [Nat.mul_comm]

/-- The first number that is not representable rounds down: the tie goes to the even side. -/
theorem roundSig_two_pow_succ {p : Nat} (hp : 2 ≤ p) : roundSig p (2^p + 1) = 2^p := by
  have hpow : 2^p = 4 * 2^(p-2) := by
    rw [show (4 : Nat) = 2^2 from rfl, ← Nat.pow_add]; congr 1; omega
  have hpos : 0 < 2^(p-2) := Nat.two_pow_pos _
  have hlog : (2^p + 1).log2 = p := by
    apply (Nat.log2_eq_iff (by omega)).mpr
    rw [Nat.pow_succ]
    omega
  have he : (2^p + 1).log2 + 1 - p = 1 := by rw [hlog]; omega
  unfold roundSig
  rw [he]
  simp only [Nat.pow_one]
  have hq : (2^p + 1) / 2 = 2 * 2^(p-2) := by omega
  have hr : (2^p + 1) % 2 = 1 := by omega
  rw [hq, hr]
  simp
  omega

theorem roundSig_ge {p n : Nat} (hp : 1 ≤ p) (h : 2^p + 2 ≤ n) : 2^p + 2 ≤ roundSig p n := by
  have hpos : 0 < 2^p := Nat.two_pow_pos p
  have hn0 : n ≠ 0 := by omega
  have hlo : 2^n.log2 ≤ n := Nat.log2_self_le hn0
  have hlog : p ≤ n.log2 := (Nat.le_log2 hn0).mpr (by omega)
  have hdown : n / 2^(n.log2 + 1 - p) * 2^(n.log2 + 1 - p) ≤ roundSig p n := by
    unfold roundSig
    simp only
    split_ifs
    · exact le_refl _
    · exact Nat.mul_le_mul_right _ (Nat.le_succ _)
  refine le_trans ?_ hdown
  rcases Nat.eq_or_lt_of_le hlog with heq | hlt
  · -- one dropped bit
    have he : n.log2 + 1 - p = 1 := by omega
    have hpow : 2^p = 2 * 2^(p-1) := by rw [← Nat.pow_succ']; congr 1; omega
    rw [he, Nat.pow_one]
    omega
  · -- at least two dropped bits: the leading bit alone is large enough
    have hsplit : 2^n.log2 = 2^(p-1) * 2^(n.log2 + 1 - p) := by
      rw [← Nat.pow_add]; congr 1; omega
    have hq : 2^(p-1) ≤ n / 2^(n.log2 + 1 - p) := by
      rw [Nat.le_div_iff_mul_le (Nat.two_pow_pos _), ← hsplit]
      exact hlo
    have hbig : 2 * 2^p ≤ 2^n.log2 := by
      rw [← Nat.pow_succ']
      exact Nat.pow_le_pow_right (by decide) hlt
    have h2 : 2 ≤ 2^p := by
      calc 2 = 2^1 := rfl
        _ ≤ 2^p := Nat.pow_le_pow_right (by decide) hp
    calc 2^p + 2 ≤ 2^n.log2 := by omega
      _ = 2^(p-1) * 2^(n.log2 + 1 - p) := hsplit
      _ ≤ n / 2^(n.log2 + 1 - p) * 2^(n.log2 + 1 - p) := Nat.mul_le_mul_right _ hq

/-- `x += 1` in a format of `p` significant bits. -/
def addOne (p x : Nat) : Nat := roundSig p (x + 1)

/-- Counting up from zero sticks at `2^p`. -/
theorem addOne_min {p : Nat} (hp : 2 ≤ p) (j : Nat) :
    addOne p (min j (2^p)) = min (j + 1) (2^p) := by
  unfold addOne
  have hpos : 0 < 2^p := Nat.two_pow_pos p
  rcases Nat.lt_or_ge j (2^p) with hlt | hge
  · rw [Nat.min_eq_left hlt.le, Nat.min_eq_left (show j + 1 ≤ 2^p from hlt)]
    rcases Nat.eq_or_lt_of_le (show j + 1 ≤ 2^p from hlt) with heq | hlt'
    · rw [heq]
      exact roundSig_two_pow (le_trans (by decide) hp)
    · exact roundSig_of_lt hlt'
  · rw [Nat.min_eq_right hge, Nat.min_eq_right (le_trans hge (Nat.le_succ j))]
    exact roundSig_two_pow_succ hp

theorem addOne_of_lt {p x : Nat} (hp : 2 ≤ p) (h : x < 2^p) : addOne p x = x + 1 := by
  have hx := addOne_min hp x
  rwa [Nat.min_eq_left h.le, Nat.min_eq_left (show x + 1 ≤ 2^p from h)] at hx

/-- No counter gets past `2^p`. -/
theorem addOne_le {p x : Nat} (hp : 2 ≤ p) (h : x ≤ 2^p) : addOne p x ≤ 2^p := by
  have hx := addOne_min hp x
  rw [Nat.min_eq_left h] at hx
  rw [hx]
  exact Nat.min_le_right _ _

end KinectHelper
