import Mathlib.Data.List.Basic

namespace KinectHelper

variable {σ α : Type*}

/-- Perform the actions in order; `none` as soon as one of them is not enabled. -/
def exec (step : σ → α → Option σ) : σ → List α → Option σ
  | s, [] => some s
  | s, a::as => (step s a).bind fun t => exec step t as

/-- Every action of the run is taken in a state that meets the guard. -/
def Guarded (step : σ → α → Option σ) (guard : σ → α → Prop) : σ → List α → Prop
  | _, [] => True
  | s, a::as => guard s a ∧
      match step s a with
      | none => True
      | some t => Guarded step guard t as

instance Guarded.decidable (step : σ → α → Option σ) (guard : σ → α → Prop)
    [h : ∀ s a, Decidable (guard s a)] : ∀ s as, Decidable (Guarded step guard s as)
  | _, [] => isTrue trivial
  | s, a::as =>
      match h s a with
      | isFalse n => isFalse fun g => n g.1
      | isTrue y =>
          match hs : step s a with
          | none => isTrue ⟨y, by rw [hs]; trivial⟩
          | some t =>
              match Guarded.decidable step guard t as with
              | isTrue r => isTrue ⟨y, by rw [hs]; exact r⟩
              | isFalse n => isFalse fun g => n (by simpa only [Guarded, hs] using g.2)

@[simp] theorem exec_nil (step : σ → α → Option σ) (s : σ) : exec step s [] = some s := rfl

theorem exec_cons (step : σ → α → Option σ) (s : σ) (a : α) (as : List α) :
    exec step s (a::as) = (step s a).bind fun t => exec step t as := rfl

theorem exec_append (step : σ → α → Option σ) (s : σ) (as bs : List α) :
    exec step s (as ++ bs) = (exec step s as).bind fun t => exec step t bs := by
  induction as generalizing s with
  | nil => rfl
  | cons a as ih =>
    rw [List.cons_append, exec_cons, exec_cons]
    cases step s a with
    | none => rfl
    | some t => exact ih t

/-- The invariant rule: what every guarded step preserves holds at the end of
every guarded run. -/
theorem exec_invariant {step : σ → α → Option σ} {guard : σ → α → Prop} {I : σ → Prop}
    (hstep : ∀ s a t, I s → guard s a → step s a = some t → I t) (as : List α) (s t : σ)
    (hs : I s) (hg : Guarded step guard s as) (ht : exec step s as = some t) : I t := by
  induction as generalizing s with
  | nil =>
    obtain rfl : s = t := by simpa using ht
    exact hs
  | cons a as ih =>
    rw [exec_cons] at ht
    cases hu : step s a with
    | none => simp [hu] at ht
    | some u =>
      have hrest : Guarded step guard u as := by simpa only [Guarded, hu] using hg.2
      exact ih u (hstep s a u hs hg.1 hu) hrest (by simpa [hu] using ht)

/-- When every allowed action is enabled and keeps the invariant, every run of allowed actions
goes through. -/
theorem exec_total {step : σ → α → Option σ} {allowed : α → Prop} {I : σ → Prop}
    (hstep : ∀ s a, I s → allowed a → ∃ t, step s a = some t ∧ I t) (as : List α) (s : σ)
    (hs : I s) (has : ∀ a ∈ as, allowed a) : ∃ t, exec step s as = some t ∧ I t := by
  induction as generalizing s with
  | nil => exact ⟨s, rfl, hs⟩
  | cons a as ih =>
    obtain ⟨u, hu, hI⟩ := hstep s a hs (has a List.mem_cons_self)
    obtain ⟨t, ht, hI'⟩ := ih u hI fun b hb => has b (List.mem_cons_of_mem a hb)
    refine ⟨t, ?_, hI'⟩
    rw [exec_cons, hu, Option.bind_some, ht]

theorem exec_invariant_all {step : σ → α → Option σ} {I : σ → Prop}
    (hstep : ∀ s a t, I s → step s a = some t → I t) (as : List α) (s t : σ)
    (hs : I s) (ht : exec step s as = some t) : I t := by
  have hfree : ∀ (as : List α) (s : σ), Guarded step (fun _ _ => True) s as := by
    intro as
    induction as with
    | nil => intro s; trivial
    | cons a as ih =>
      intro s
      refine ⟨trivial, ?_⟩
      cases step s a with
      | none => trivial
      | some u => exact ih u
  exact exec_invariant (fun s a t h _ => hstep s a t h) as s t hs (hfree as s) ht

/-- The simulation rule: when every step of one machine is matched by steps of another, so is every
run. -/
theorem exec_simulation {τ β : Type*} {step : σ → α → Option σ} {step' : τ → β → Option τ}
    {R : σ → τ → Prop}
    (hstep : ∀ s x a t, R s x → step s a = some t → ∃ bs y, exec step' x bs = some y ∧ R t y)
    (as : List α) (s t : σ) (x : τ) (hs : R s x) (ht : exec step s as = some t) :
    ∃ bs y, exec step' x bs = some y ∧ R t y := by
  induction as generalizing s x with
  | nil =>
    obtain rfl : s = t := by simpa using ht
    exact ⟨[], x, rfl, hs⟩
  | cons a as ih =>
    obtain ⟨u, hu, hrest⟩ := Option.bind_eq_some_iff.mp ht
    obtain ⟨bs, y, hbs, hy⟩ := hstep s x a u hs hu
    obtain ⟨cs, z, hcs, hz⟩ := ih u y hy hrest
    refine ⟨bs ++ cs, z, ?_, hz⟩
    rw [exec_append, hbs, Option.bind_some, hcs]

section Histories

theorem concat_eq_split {l earlier later : List α} {a b : α} :
    l ++ [b] = earlier ++ a :: later ↔
      (later = [] ∧ l = earlier ∧ b = a) ∨
        ∃ rest, later = rest ++ [b] ∧ l = earlier ++ a :: rest := by
  constructor
  · intro h
    rcases List.eq_nil_or_concat' later with hnil | ⟨rest, c, hconcat⟩
    · subst hnil
      obtain ⟨hl, hb⟩ := List.append_inj' h rfl
      exact Or.inl ⟨rfl, hl, (List.cons.inj hb).1⟩
    · subst hconcat
      rw [← List.cons_append, ← List.append_assoc] at h
      obtain ⟨hl, hb⟩ := List.append_inj' h rfl
      obtain rfl := (List.cons.inj hb).1
      exact Or.inr ⟨rest, rfl, hl⟩
  · intro h
    rcases h with ⟨hnil, hl, hb⟩ | ⟨rest, hlater, hl⟩
    · rw [hnil, hl, hb]
    · rw [hlater, hl, List.append_assoc, List.cons_append]

/-- Every event of the history meets `P` of the events before it. -/
def Along (P : List α → α → Prop) (l : List α) : Prop :=
  ∀ earlier a later, l = earlier ++ a :: later → P earlier a

theorem along_nil (P : List α → α → Prop) : Along P [] := by
  intro earlier a later h
  simp at h

theorem along_concat {P : List α → α → Prop} {l : List α} {b : α} :
    Along P (l ++ [b]) ↔ Along P l ∧ P l b := by
  constructor
  · intro h
    constructor
    · intro earlier a later hl
      exact h earlier a (later ++ [b]) (concat_eq_split.mpr (Or.inr ⟨later, rfl, hl⟩))
    · exact h l b [] rfl
  · intro ⟨hl, hb⟩ earlier a later h
    rcases concat_eq_split.mp h with ⟨_, he, ha⟩ | ⟨rest, _, hrest⟩
    · rwa [← he, ← ha]
    · exact hl earlier a rest hrest

theorem along_forall {P : α → Prop} {l : List α} : Along (fun _ a => P a) l ↔ ∀ a ∈ l, P a := by
  constructor
  · intro h a ha
    obtain ⟨earlier, later, hl⟩ := List.append_of_mem ha
    exact h earlier a later hl
  · intro h earlier a later hl
    apply h a
    rw [hl]
    simp

theorem along_congr {P Q : List α → α → Prop} {l : List α}
    (h : Along (fun earlier a => P earlier a ↔ Q earlier a) l) : Along P l ↔ Along Q l := by
  constructor
  · intro hP earlier a later hl
    exact (h earlier a later hl).mp (hP earlier a later hl)
  · intro hQ earlier a later hl
    exact (h earlier a later hl).mpr (hQ earlier a later hl)

/-- An event with `p` has happened, and none with `q` after it. -/
def Since (p q : α → Prop) (l : List α) : Prop :=
  ∃ earlier a later, l = earlier ++ a :: later ∧ p a ∧ ∀ b ∈ later, ¬ q b

theorem since_nil (p q : α → Prop) : ¬ Since p q [] := by
  intro ⟨earlier, a, later, h, _⟩
  simp at h

theorem since_concat {p q : α → Prop} {l : List α} {b : α} :
    Since p q (l ++ [b]) ↔ p b ∨ (¬ q b ∧ Since p q l) := by
  constructor
  · intro ⟨earlier, a, later, h, ha, hlater⟩
    rcases concat_eq_split.mp h with ⟨_, _, hb⟩ | ⟨rest, hrest, hl⟩
    · exact Or.inl (hb ▸ ha)
    · subst hrest
      refine Or.inr ⟨hlater b (by simp), earlier, a, rest, hl, ha, ?_⟩
      intro c hc
      exact hlater c (List.mem_append_left _ hc)
  · intro h
    rcases h with hb | ⟨hb, earlier, a, later, hl, ha, hlater⟩
    · exact ⟨l, b, [], rfl, hb, nofun⟩
    · refine ⟨earlier, a, later ++ [b], concat_eq_split.mpr (Or.inr ⟨later, rfl, hl⟩), ha, ?_⟩
      intro c hc
      rcases List.mem_append.mp hc with hmem | hlast
      · exact hlater c hmem
      · rwa [List.mem_singleton.mp hlast]

end Histories

end KinectHelper
