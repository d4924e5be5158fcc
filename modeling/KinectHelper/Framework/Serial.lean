import Mathlib.Logic.Relation
import KinectHelper.Framework.Run

namespace KinectHelper

variable {κ σ : Type*}

/-- The code between lock and unlock, one step at a time; where it may begin, and where it is
through. -/
structure Sections (κ σ : Type*) where
  first : κ → Bool
  code : κ → σ → Option (κ × σ)
  through : κ → Bool

/-- A memory under a lock. The owner and the sections that are through are recorded with their
first control point and the one they are at. -/
structure Locked (κ σ : Type*) where
  memory : σ
  owner : Option (κ × κ)
  history : List (κ × κ)

inductive LockAction (κ : Type*) where
  | enter (k : κ)
  | run
  | leave

def Locked.start (m : σ) : Locked κ σ := ⟨m, none, []⟩

namespace Sections

variable (S : Sections κ σ)

def step (s : Locked κ σ) : LockAction κ → Option (Locked κ σ)
  | .enter k =>
      match s.owner with
      | none => if S.first k then some { s with owner := some (k, k) } else none
      | some _ => none
  | .run =>
      match s.owner with
      | none => none
      | some (k₀, k) => (S.code k s.memory).map fun r =>
          { s with memory := r.2, owner := some (k₀, r.1) }
  | .leave =>
      match s.owner with
      | none => none
      | some (k₀, k) =>
          if S.through k then some { s with owner := none, history := s.history ++ [(k₀, k)] }
          else none

/-- Some steps of the code lead from one control point and memory to another. -/
def Reaches : κ × σ → κ × σ → Prop :=
  Relation.ReflTransGen fun p q => S.code p.1 p.2 = some q

/-- Whole sections, one after the other. -/
inductive Serial (m₀ : σ) : List (κ × κ) → σ → Prop where
  | nil : Serial m₀ [] m₀
  | concat {history : List (κ × κ)} {m m' : σ} {k k' : κ} (h : Serial m₀ history m)
      (hfirst : S.first k = true) (hreaches : S.Reaches (k, m) (k', m'))
      (hthrough : S.through k' = true) : Serial m₀ (history ++ [(k, k')]) m'

/-- The memory is that of whole sections, and of the part of the owner's that has been run. -/
def Serialized (m₀ : σ) (s : Locked κ σ) : Prop :=
  match s.owner with
  | none => S.Serial m₀ s.history s.memory
  | some (k₀, k) =>
      S.first k₀ = true ∧ ∃ m, S.Serial m₀ s.history m ∧ S.Reaches (k₀, m) (k, s.memory)

variable {S}

/-- What every step of the code keeps holds wherever a section gets to. -/
theorem Reaches.invariant (I : κ → σ → Prop)
    (hcode : ∀ k m k' m', I k m → S.code k m = some (k', m') → I k' m') {k k' : κ} {m m' : σ}
    (h : S.Reaches (k, m) (k', m')) (hI : I k m) : I k' m' := by
  have hall : ∀ q, S.Reaches (k, m) q → I q.1 q.2 := by
    intro q hq
    induction hq with
    | refl => exact hI
    | tail _ hnext ih => exact hcode _ _ _ _ ih hnext
  exact hall (k', m') h

theorem serialized_step {m₀ : σ} {s t : Locked κ σ} {a : LockAction κ}
    (h : S.Serialized m₀ s) (hstep : S.step s a = some t) : S.Serialized m₀ t := by
  unfold Serialized at h
  cases a with
  | enter k =>
    rw [step] at hstep
    split at hstep
    next hfree =>
      rw [hfree] at h
      split_ifs at hstep with hfirst
      obtain rfl := Option.some.inj hstep
      exact ⟨hfirst, s.memory, h, Relation.ReflTransGen.refl⟩
    next => exact absurd hstep (Option.some_ne_none t).symm
  | run =>
    rw [step] at hstep
    split at hstep
    next => exact absurd hstep (Option.some_ne_none t).symm
    next k₀ k howner =>
      rw [howner] at h
      obtain ⟨hfirst, m, hserial, hreaches⟩ := h
      obtain ⟨r, hr, rfl⟩ := Option.map_eq_some_iff.mp hstep
      exact ⟨hfirst, m, hserial, hreaches.tail hr⟩
  | leave =>
    rw [step] at hstep
    split at hstep
    next => exact absurd hstep (Option.some_ne_none t).symm
    next k₀ k howner =>
      rw [howner] at h
      obtain ⟨hfirst, m, hserial, hreaches⟩ := h
      split_ifs at hstep with hthrough
      obtain rfl := Option.some.inj hstep
      exact hserial.concat hfirst hreaches hthrough

/-- Every run under the lock is serial. -/
theorem exec_serialized {m₀ : σ} {as : List (LockAction κ)} {s : Locked κ σ}
    (hrun : exec S.step (Locked.start m₀) as = some s) : S.Serialized m₀ s := by
  have hstart : S.Serialized m₀ (Locked.start m₀) := Serial.nil
  exact exec_invariant_all (fun _ _ _ => serialized_step) as _ s hstart hrun

end Sections

end KinectHelper
