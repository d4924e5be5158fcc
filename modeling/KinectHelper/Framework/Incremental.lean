import Mathlib.Data.List.Basic

namespace KinectHelper

variable {κ α : Type*}

/-- A machine over a buffer. Each step takes something from the buffer or lowers the rank of the
control state. -/
structure Stepper (κ α : Type*) where
  step : κ → List α → Option (κ × List α)
  rank : κ → ℕ
  shrinks : ∀ {k l r}, step k l = some r →
    Prod.Lex (· < ·) (· < ·) (r.2.length, rank r.1) (l.length, rank k)

/-- A machine over a buffer to which more is appended at any time: a step that is possible stays the
same step when more has arrived. -/
structure Reader (κ α : Type*) extends Stepper κ α where
  patient : ∀ {k k' l l'}, step k l = some (k', l') →
    ∀ more, step k (l ++ more) = some (k', l' ++ more)

namespace Stepper

variable (S : Stepper κ α)

/-- Steps until more of the stream is needed. -/
def settle (k : κ) (l : List α) : κ × List α :=
  match _h : S.step k l with
  | none => (k, l)
  | some r => settle r.1 r.2
termination_by (l.length, S.rank k)
decreasing_by exact S.shrinks _h

/-- The next piece of the stream arrives. -/
def read (s : κ × List α) (piece : List α) : κ × List α := S.settle s.1 (s.2 ++ piece)

variable {S} {k k' : κ} {l l' : List α}

theorem settle_none (h : S.step k l = none) : S.settle k l = (k, l) := by
  rw [settle]
  split
  · rfl
  · next r hr => exact absurd (h.symm.trans hr) (Option.some_ne_none r).symm

theorem settle_some (h : S.step k l = some (k', l')) : S.settle k l = S.settle k' l' := by
  rw [settle]
  split
  · next hr => exact absurd (h.symm.trans hr) (Option.some_ne_none (k', l'))
  · next r hr =>
    obtain rfl := Option.some.inj (h.symm.trans hr)
    rfl

/-- The rule of induction for the steps until more is needed. -/
theorem settle_induction {motive : κ → List α → κ × List α → Prop}
    (waits : ∀ k l, S.step k l = none → motive k l (k, l))
    (steps : ∀ k l k' l' r, S.step k l = some (k', l') → motive k' l' r → motive k l r)
    (k : κ) (l : List α) : motive k l (S.settle k l) := by
  cases h : S.step k l with
  | none =>
    rw [settle_none h]
    exact waits k l h
  | some r =>
    rw [settle_some h]
    exact steps k l r.1 r.2 _ h (settle_induction waits steps r.1 r.2)
termination_by (l.length, S.rank k)
decreasing_by exact S.shrinks h

theorem settled (k : κ) (l : List α) : S.step (S.settle k l).1 (S.settle k l).2 = none := by
  apply settle_induction (motive := fun _ _ r => S.step r.1 r.2 = none)
  · intro k l h
    exact h
  · intro k l k' l' r h ih
    exact ih

theorem settle_invariant {I : κ → Prop} (hstep : ∀ k l r, S.step k l = some r → I k → I r.1)
    (h : I k) : I (S.settle k l).1 := by
  revert h
  apply settle_induction (motive := fun k _ r => I k → I r.1)
  · intro k l hnone h
    exact h
  · intro k l k' l' r hsome ih h
    exact ih (hstep k l (k', l') hsome h)

/-- What only grows has not been less before. -/
theorem settle_grows {β : Type*} (out : κ → List β)
    (hstep : ∀ k l r, S.step k l = some r → out k <+: out r.1) (k : κ) (l : List α) :
    out k <+: out (S.settle k l).1 := by
  apply settle_induction (motive := fun k _ r => out k <+: out r.1)
  · intro k l hnone
    exact List.prefix_refl _
  · intro k l k' l' r hsome ih
    exact (hstep k l (k', l') hsome).trans ih

section Map

variable {κ' : Type*} {T : Stepper κ' α} {f : κ → κ'}

end Map

end Stepper

namespace Reader

variable {R : Reader κ α} {k k' : κ} {l l' : List α}

open Stepper

theorem settle_append (k : κ) (l more : List α) :
    R.settle k (l ++ more) = R.settle (R.settle k l).1 ((R.settle k l).2 ++ more) := by
  apply settle_induction
    (motive := fun k l r => R.settle k (l ++ more) = R.settle r.1 (r.2 ++ more))
  · intro k l h
    rfl
  · intro k l k' l' r h ih
    rw [settle_some (R.patient h more)]
    exact ih

/-- Reading `w` leads from `k` to `k'`; as long as a part of it is missing, the state is one of
`P`. -/
structure Consumes (R : Reader κ α) (P : κ → Prop) (k : κ) (w : List α) (k' : κ) : Prop where
  whole : ∀ more, R.settle k (w ++ more) = R.settle k' more
  early : ∀ v, v <+: w → v ≠ w → P (R.settle k v).1

theorem Consumes.refl (P : κ → Prop) (k : κ) : R.Consumes P k [] k where
  whole _ := rfl
  early _ hv hne := absurd (List.prefix_nil.mp hv) hne

theorem Consumes.silent {P : κ → Prop} (h : ∀ more, R.step k more = some (k', more)) :
    R.Consumes P k [] k' where
  whole more := settle_some (h more)
  early _ hv hne := absurd (List.prefix_nil.mp hv) hne

theorem Consumes.of_step {P : κ → Prop} {w : List α}
    (hwhole : ∀ more, R.step k (w ++ more) = some (k', more))
    (hearly : ∀ v, v <+: w → v ≠ w → R.step k v = none) (hP : P k) : R.Consumes P k w k' where
  whole more := settle_some (hwhole more)
  early v hv hne := by
    rw [settle_none (hearly v hv hne)]
    exact hP

theorem Consumes.trans {P : κ → Prop} {k'' : κ} {v w : List α} (h : R.Consumes P k v k')
    (h' : R.Consumes P k' w k'') : R.Consumes P k (v ++ w) k'' where
  whole more := by rw [List.append_assoc, h.whole, h'.whole]
  early u hu hne := by
    rcases List.prefix_or_prefix_of_prefix hu (List.prefix_append v w) with huv | hvu
    · by_cases heq : u = v
      · subst heq
        have hsettle := h.whole []
        rw [List.append_nil] at hsettle
        rw [hsettle]
        apply h'.early [] List.nil_prefix
        intro hnil
        exact hne (by rw [← hnil, List.append_nil])
      · exact h.early u huv heq
    · obtain ⟨u, rfl⟩ := hvu
      rw [h.whole]
      apply h'.early u ((List.prefix_append_right_inj v).mp hu)
      intro heq
      exact hne (congrArg (v ++ ·) heq)

/-- Items one after the other: of each only what `out` shows of the state after it is seen, once
it is complete. -/
theorem settle_items {ι β : Type*} {wire : ι → List α} {next : κ → ι → κ} {out : κ → β}
    {ready : κ → Prop} {items : List ι} (hready : ∀ k, ∀ a ∈ items, ready k → ready (next k a))
    (hwaits : ∀ k, ready k → R.step k [] = none)
    (hitem : ∀ k, ∀ a ∈ items, ready k → R.Consumes (fun c => out c = out k) k (wire a) (next k a))
    (hk : ready k) {v : List α} (hv : v <+: items.flatMap wire) :
    ∃ n ≤ items.length, (∀ m ≤ items.length, m ≤ n ↔ (items.take m).flatMap wire <+: v) ∧
      out (R.settle k v).1 = out ((items.take n).foldl next k) := by
  induction items generalizing k v with
  | nil =>
    obtain rfl := List.prefix_nil.mp hv
    refine ⟨0, Nat.le_refl 0, ?_, ?_⟩
    · intro m hm
      simp [Nat.le_zero.mp hm]
    · rw [settle_none (hwaits k hk)]
      rfl
  | cons a items ih =>
    have ha : a ∈ a :: items := List.mem_cons_self
    rw [List.flatMap_cons] at hv
    by_cases hcomplete : wire a <+: v
    · obtain ⟨v, rfl⟩ := hcomplete
      obtain ⟨n, hn, hiff, hout⟩ := ih (fun k b hb => hready k b (List.mem_cons_of_mem a hb))
        (fun k b hb => hitem k b (List.mem_cons_of_mem a hb)) (hready k a ha hk)
        ((List.prefix_append_right_inj (wire a)).mp hv)
      refine ⟨n + 1, Nat.succ_le_succ hn, ?_, ?_⟩
      · intro m hm
        cases m with
        | zero => simp
        | succ m =>
          rw [List.take_succ_cons, List.flatMap_cons, List.prefix_append_right_inj,
            ← hiff m (Nat.le_of_succ_le_succ hm), Nat.succ_le_succ_iff]
      · rw [(hitem k a ha hk).whole, hout]
        rfl
    · have hearly : v <+: wire a :=
        (List.prefix_or_prefix_of_prefix hv (List.prefix_append _ _)).resolve_right hcomplete
      refine ⟨0, Nat.zero_le _, ?_, ?_⟩
      · intro m hm
        cases m with
        | zero => simp
        | succ m =>
          refine iff_of_false (Nat.not_succ_le_zero m) ?_
          intro hprefix
          rw [List.take_succ_cons, List.flatMap_cons] at hprefix
          exact hcomplete ((List.prefix_append _ _).trans hprefix)
      · apply (hitem k a ha hk).early v hearly
        intro heq
        exact hcomplete (heq ▸ List.prefix_refl _)

end Reader

end KinectHelper
