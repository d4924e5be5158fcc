import Mathlib.Data.List.Basic

namespace KinectHelper

variable {σ : Type*}

/-- `for (i = 0; i < n; i++) body`; `none` as soon as the body fails. -/
def forRange (n : Nat) (body : Nat → σ → Option σ) (s : σ) : Option σ :=
  match n with
  | 0 => some s
  | n+1 => (forRange n body s).bind (body n)

theorem forRange_rule {n : Nat} {body : Nat → σ → Option σ} {s : σ} (I : Nat → σ → Prop)
    (h0 : I 0 s) (hstep : ∀ i, i < n → ∀ s, I i s → ∃ t, body i s = some t ∧ I (i+1) t) :
    ∃ t, forRange n body s = some t ∧ I n t := by
  induction n with
  | zero => exact ⟨s, rfl, h0⟩
  | succ n ih =>
    obtain ⟨u, hu, hI⟩ := ih fun i hi => hstep i (Nat.lt_succ_of_lt hi)
    obtain ⟨t, ht, hI'⟩ := hstep n (Nat.lt_succ_self n) u hI
    refine ⟨t, ?_, hI'⟩
    rw [forRange, hu, Option.bind_some, ht]

/-- What every turn preserves holds when the loop is through. -/
theorem forRange_invariant {n : Nat} {body : Nat → σ → Option σ} {s t : σ} {I : Nat → σ → Prop}
    (hstep : ∀ i, i < n → ∀ u v, I i u → body i u = some v → I (i+1) v) (h0 : I 0 s)
    (hrun : forRange n body s = some t) : I n t := by
  induction n generalizing t with
  | zero =>
    obtain rfl := Option.some.inj hrun
    exact h0
  | succ n ih =>
    obtain ⟨u, hu, ht⟩ := Option.bind_eq_some_iff.mp hrun
    exact hstep n (Nat.lt_succ_self n) u t (ih (fun i hi => hstep i (Nat.lt_succ_of_lt hi)) hu) ht

theorem forRange_turn {n : Nat} {body : Nat → σ → Option σ} {s t : σ}
    (h : forRange n body s = some t) {i : Nat} (hi : i < n) : ∃ u v, body i u = some v := by
  induction n generalizing t with
  | zero => omega
  | succ n ih =>
    rw [forRange] at h
    obtain ⟨u, hu, ht⟩ := Option.bind_eq_some_iff.mp h
    rcases Nat.lt_succ_iff_lt_or_eq.mp hi with hlt | rfl
    · exact ih hu hlt
    · exact ⟨u, t, ht⟩

theorem pixel_lt {w h y x : Nat} (hy : y < h) (hx : x < w) : w * y + x < w * h := by
  calc w * y + x < w * y + w := Nat.add_lt_add_left hx _
    _ = w * (y + 1) := (Nat.mul_succ w y).symm
    _ ≤ w * h := Nat.mul_le_mul_left w hy

/-- The loop over the pixels of an image, row by row. -/
def forPixels (w h : Nat) (body : Nat → Nat → σ → Option σ) (s : σ) : Option σ :=
  forRange h (fun y => forRange w fun x => body y x) s

theorem forPixels_rule {w h : Nat} {body : Nat → Nat → σ → Option σ} {s : σ}
    (I : Nat → σ → Prop) (h0 : I 0 s)
    (hstep : ∀ y x, y < h → x < w → ∀ s, I (w * y + x) s →
      ∃ t, body y x s = some t ∧ I (w * y + x + 1) t) :
    ∃ t, forPixels w h body s = some t ∧ I (w * h) t := by
  refine forRange_rule (fun y => I (w * y)) h0 ?_
  intro y hy s hI
  have hrow := @forRange_rule _ w (fun x => body y x) s (fun x => I (w * y + x)) hI ?_
  · rwa [← Nat.mul_succ] at hrow
  · intro x hx s hI
    exact hstep y x hy hx s hI

theorem forPixels_invariant {w h : Nat} {body : Nat → Nat → σ → Option σ} {s t : σ}
    {I : σ → Prop}
    (hstep : ∀ y x, y < h → x < w → ∀ u v, I u → body y x u = some v → I v) (h0 : I s)
    (hrun : forPixels w h body s = some t) : I t := by
  refine forRange_invariant (I := fun _ => I) ?_ h0 hrun
  intro y hy u v hu hrow
  exact forRange_invariant (I := fun _ => I) (fun x hx => hstep y x hy hx) hu hrow

theorem forPixels_turn {w h : Nat} {body : Nat → Nat → σ → Option σ} {s t : σ}
    (hrun : forPixels w h body s = some t) {y x : Nat} (hy : y < h) (hx : x < w) :
    ∃ u v, body y x u = some v := by
  obtain ⟨u, v, hrow⟩ := forRange_turn hrun hy
  exact forRange_turn hrow hx

section Push

variable {α β : Type*} {f : α → Option β} {l : List α}

/-- The results of a loop, each with the element it comes from. -/
theorem mapM_forall {l' : List β} (h : l.mapM f = some l') :
    ∀ b ∈ l', ∃ a ∈ l, f a = some b := by
  induction l generalizing l' with
  | nil =>
    obtain rfl : [] = l' := Option.some.inj h
    simp
  | cons a l ih =>
    rw [List.mapM_cons] at h
    obtain ⟨b, hb, hrest⟩ := Option.bind_eq_some_iff.mp h
    obtain ⟨bs, hbs, hlast⟩ := Option.bind_eq_some_iff.mp hrest
    obtain rfl := Option.some.inj hlast
    rw [List.forall_mem_cons]
    refine ⟨⟨a, List.mem_cons_self, hb⟩, ?_⟩
    intro c hc
    obtain ⟨a', ha', hf⟩ := ih hbs c hc
    exact ⟨a', List.mem_cons_of_mem a ha', hf⟩

theorem mapM_isSome (h : ∀ a ∈ l, ∃ b, f a = some b) : ∃ l', l.mapM f = some l' := by
  induction l with
  | nil => exact ⟨[], rfl⟩
  | cons a l ih =>
    rw [List.forall_mem_cons] at h
    obtain ⟨b, hb⟩ := h.1
    obtain ⟨bs, hbs⟩ := ih h.2
    refine ⟨b::bs, ?_⟩
    rw [List.mapM_cons, hb, hbs]
    rfl

theorem mapM_nil_iff : l.mapM f = some [] ↔ l = [] := by
  cases l with
  | nil => simp
  | cons a l =>
    rw [List.mapM_cons]
    simp [Option.bind_eq_some_iff]

end Push

end KinectHelper
