import Mathlib.Tactic.Common

namespace KinectHelper

variable {ι : Type*}

/-- The lock is owned exactly by the thread that is inside. -/
def Owned (owner : Option ι) (inside : ι → Bool) : Prop := ∀ i, owner = some i ↔ inside i = true

/-- What thread `i` may do to the lock in one step: leave it alone and stay inside or outside,
enter when it is free, or leave. -/
inductive LockStep (i : ι) : Option ι → Bool → Option ι → Bool → Prop where
  | stay (o : Option ι) (b : Bool) : LockStep i o b o b
  | enter : LockStep i none false (some i) true
  | leave (o : Option ι) : LockStep i o true none false

theorem Owned.unique {owner : Option ι} {inside : ι → Bool} (h : Owned owner inside) {i j : ι}
    (hi : inside i = true) (hj : inside j = true) : i = j := by
  have h1 := (h i).mpr hi
  have h2 := (h j).mpr hj
  rw [h1] at h2
  exact Option.some.inj h2

theorem Owned.outside {owner : Option ι} {inside : ι → Bool} (h : Owned owner inside) {i j : ι}
    (hi : inside i = true) (hne : j ≠ i) : inside j = false := by
  cases hj : inside j with
  | false => rfl
  | true => exact absurd (h.unique hj hi) hne

theorem Owned.step {owner owner' : Option ι} {inside inside' : ι → Bool} {i : ι}
    (h : Owned owner inside) (hstep : LockStep i owner (inside i) owner' (inside' i))
    (hothers : ∀ j, j ≠ i → inside' j = inside j) : Owned owner' inside' := by
  generalize hb : inside i = b at hstep
  generalize hb' : inside' i = b' at hstep
  intro j
  by_cases hj : j = i
  · subst hj
    cases hstep with
    | stay => rw [h j, hb, hb']
    | enter => simp [hb']
    | leave => simp [hb']
  · rw [hothers j hj]
    cases hstep with
    | stay => exact h j
    | enter =>
      have hout : ¬ inside j = true := fun hin => nomatch (h j).mpr hin
      simp [hout, Ne.symm hj]
    | leave =>
      have hout := h.outside hb hj
      simp [hout]

end KinectHelper
