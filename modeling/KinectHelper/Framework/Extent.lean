import Mathlib.Order.MinMax

namespace KinectHelper

variable {α : Type*} [LinearOrder α]

/-- `lo` is the least element of `l`, and `hi` the greatest. -/
structure IsExtent (lo hi : α) (l : List α) : Prop where
  lo_mem : lo ∈ l
  hi_mem : hi ∈ l
  lo_le : ∀ x ∈ l, lo ≤ x
  le_hi : ∀ x ∈ l, x ≤ hi

namespace IsExtent

variable {lo hi : α} {l l' : List α}

theorem singleton (x : α) : IsExtent x x [x] := by
  constructor <;> simp

theorem concat (h : IsExtent lo hi l) (x : α) : IsExtent (min lo x) (max hi x) (l ++ [x]) := by
  have hmem : ∀ y ∈ l, y ∈ l ++ [x] := fun y hy => List.mem_append_left _ hy
  have hlast : x ∈ l ++ [x] := List.mem_append_right _ (List.mem_singleton_self x)
  constructor
  · rcases min_choice lo x with hlo | hx
    · rw [hlo]
      exact hmem lo h.lo_mem
    · rwa [hx]
  · rcases max_choice hi x with hhi | hx
    · rw [hhi]
      exact hmem hi h.hi_mem
    · rwa [hx]
  · intro y hy
    rcases List.mem_append.mp hy with hold | hnew
    · exact (min_le_left lo x).trans (h.lo_le y hold)
    · rw [List.mem_singleton.mp hnew]
      exact min_le_right lo x
  · intro y hy
    rcases List.mem_append.mp hy with hold | hnew
    · exact (h.le_hi y hold).trans (le_max_left hi x)
    · rw [List.mem_singleton.mp hnew]
      exact le_max_right hi x

/-- The elements count, not how often or in which order they come. -/
theorem of_mem_iff (h : IsExtent lo hi l) (hmem : ∀ x, x ∈ l ↔ x ∈ l') : IsExtent lo hi l' where
  lo_mem := (hmem lo).mp h.lo_mem
  hi_mem := (hmem hi).mp h.hi_mem
  lo_le x hx := h.lo_le x ((hmem x).mpr hx)
  le_hi x hx := h.le_hi x ((hmem x).mpr hx)

end IsExtent

end KinectHelper
