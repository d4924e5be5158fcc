import Mathlib.Logic.Function.Iterate

namespace KinectHelper

variable {σ : Type*} {step : σ → σ}

/-- Some number of steps leads from `s` to `t`. -/
def LeadsTo (step : σ → σ) (s t : σ) : Prop := ∃ n, step^[n] s = t

/-- A measure that each step lowers, as long as it is positive, falls with the number of steps. -/
theorem iterate_measure {I : σ → Prop} (measure : σ → Nat) (hstep : ∀ s, I s → I (step s))
    (hless : ∀ s, I s → measure (step s) ≤ measure s - 1) {s : σ} (hs : I s) (n : Nat) :
    I (step^[n] s) ∧ measure (step^[n] s) ≤ measure s - n := by
  induction n with
  | zero => exact ⟨hs, Nat.le_refl _⟩
  | succ n ih =>
    rw [Function.iterate_succ_apply']
    obtain ⟨hI, hmeasure⟩ := ih
    have hlower := hless _ hI
    exact ⟨hstep _ hI, by omega⟩

namespace LeadsTo

theorem refl (s : σ) : LeadsTo step s s := ⟨0, rfl⟩

theorem one (s : σ) : LeadsTo step s (step s) := ⟨1, rfl⟩

theorem trans {s t u : σ} (h : LeadsTo step s t) (k : LeadsTo step t u) : LeadsTo step s u := by
  obtain ⟨m, rfl⟩ := h
  obtain ⟨n, rfl⟩ := k
  exact ⟨n + m, Function.iterate_add_apply step n m s⟩

theorem next {s t u : σ} (h : LeadsTo step s t) (k : step t = u) : LeadsTo step s u := by
  subst k
  exact h.trans (one t)

/-- What every step keeps holds wherever the machine gets to. -/
theorem invariant {I : σ → Prop} (hstep : ∀ s, I s → I (step s)) {s t : σ} (hs : I s)
    (h : LeadsTo step s t) : I t := by
  obtain ⟨n, rfl⟩ := h
  induction n with
  | zero => exact hs
  | succ n ih =>
    rw [Function.iterate_succ_apply']
    exact hstep _ ih

theorem halted_unique {s t u : σ} (ht : step t = t) (hu : step u = u)
    (h : LeadsTo step s t) (k : LeadsTo step s u) : t = u := by
  obtain ⟨m, rfl⟩ := h
  obtain ⟨n, rfl⟩ := k
  have hstay (x : σ) (hx : step x = x) (i : Nat) : step^[i] x = x := Function.iterate_fixed hx i
  have hm := hstay _ ht n
  have hn := hstay _ hu m
  rw [← Function.iterate_add_apply] at hm hn
  rw [← hm, ← hn, Nat.add_comm]

end LeadsTo

end KinectHelper
