import Mathlib.Algebra.BigOperators.Ring.List
import Mathlib.Algebra.Order.BigOperators.Group.List
import Mathlib.Algebra.Order.Field.Basic

namespace KinectHelper

variable {K α : Type*} [Field K]

def mean (f : α → K) (l : List α) : K := (l.map f).sum / l.length

theorem mean_const_mul (c : K) (f : α → K) (l : List α) :
    mean (fun a => c * f a) l = c * mean f l := by
  rw [mean, mean, List.sum_map_mul_left, mul_div_assoc]

variable [LinearOrder K] [IsStrictOrderedRing K]

theorem mean_mono {f g : α → K} {l : List α} (h : ∀ a ∈ l, f a ≤ g a) : mean f l ≤ mean g l := by
  apply div_le_div_of_nonneg_right _ (Nat.cast_nonneg _)
  exact List.sum_le_sum h

theorem mean_pos {f : α → K} {l : List α} (hne : l ≠ []) (h : ∀ a ∈ l, 0 < f a) :
    0 < mean f l := by
  apply div_pos
  · exact List.sum_pos _ (List.forall_mem_map.mpr h) (by simpa using hne)
  · exact Nat.cast_pos.mpr (List.length_pos_of_ne_nil hne)

/-- A quotient of means is a weighted mean of the quotients: it keeps to their bounds. -/
theorem mean_div_mean {v w : α → K} {lo hi : K} {l : List α} (hne : l ≠ [])
    (hw : ∀ a ∈ l, 0 < w a) (h : ∀ a ∈ l, lo ≤ v a / w a ∧ v a / w a ≤ hi) :
    lo ≤ mean v l / mean w l ∧ mean v l / mean w l ≤ hi := by
  have hpos := mean_pos hne hw
  constructor
  · rw [le_div_iff₀ hpos, ← mean_const_mul]
    apply mean_mono
    intro a ha
    exact (le_div_iff₀ (hw a ha)).mp (h a ha).1
  · rw [div_le_iff₀ hpos, ← mean_const_mul]
    apply mean_mono
    intro a ha
    exact (div_le_iff₀ (hw a ha)).mp (h a ha).2

end KinectHelper
