import Mathlib.Data.List.Perm.Subperm
import KinectHelper.Framework.Incremental
import KinectHelper.Framework.Run

namespace KinectHelper

variable {ι κ α β γ : Type*} [DecidableEq ι]

/-- The events of `i`, in their order. -/
def eventsOf (i : ι) (merged : List (ι × β)) : List β :=
  (merged.filter fun e => e.1 = i).map Prod.snd

@[simp] theorem eventsOf_nil (i : ι) : eventsOf i ([] : List (ι × β)) = [] := rfl

theorem eventsOf_append (i : ι) (merged more : List (ι × β)) :
    eventsOf i (merged ++ more) = eventsOf i merged ++ eventsOf i more := by
  unfold eventsOf
  rw [List.filter_append, List.map_append]

theorem eventsOf_cons_self (i : ι) (b : β) (merged : List (ι × β)) :
    eventsOf i ((i, b)::merged) = b::eventsOf i merged := by simp [eventsOf]

theorem eventsOf_cons_ne {i j : ι} (h : j ≠ i) (b : β) (merged : List (ι × β)) :
    eventsOf i ((j, b)::merged) = eventsOf i merged := by simp [eventsOf, h]

theorem eventsOf_concat (i j : ι) (b : β) (merged : List (ι × β)) :
    eventsOf i (merged ++ [(j, b)]) = eventsOf i merged ++ if i = j then [b] else [] := by
  rw [eventsOf_append]
  split
  · next hi => rw [hi, eventsOf_cons_self, eventsOf_nil]
  · next hi => rw [eventsOf_cons_ne (Ne.symm hi), eventsOf_nil]

theorem eventsOf_tagged_self (i : ι) (events : List β) :
    eventsOf i (events.map fun b => (i, b)) = events := by
  induction events with
  | nil => rfl
  | cons b events ih => rw [List.map_cons, eventsOf_cons_self, ih]

theorem eventsOf_tagged_ne {i j : ι} (h : j ≠ i) (events : List β) :
    eventsOf i (events.map fun b => (j, b)) = [] := by
  induction events with
  | nil => rfl
  | cons b events ih => rw [List.map_cons, eventsOf_cons_ne h, ih]

theorem eventsOf_filterMap (i : ι) (f : β → Option γ) (merged : List (ι × β)) :
    eventsOf i (merged.filterMap fun e => (f e.2).map fun c => (e.1, c)) =
      (eventsOf i merged).filterMap f := by
  induction merged with
  | nil => rfl
  | cons e merged ih =>
    obtain ⟨j, b⟩ := e
    by_cases hj : j = i
    · subst hj
      rw [eventsOf_cons_self]
      cases hf : f b with
      | none => simp [hf, ih]
      | some c => simp [hf, ih, eventsOf_cons_self]
    · rw [eventsOf_cons_ne hj]
      cases hf : f b with
      | none => simp [hf, ih]
      | some c => simp [hf, ih, eventsOf_cons_ne hj]

theorem mem_eventsOf {i : ι} {b : β} {merged : List (ι × β)} :
    b ∈ eventsOf i merged ↔ (i, b) ∈ merged := by
  unfold eventsOf
  constructor
  · intro h
    obtain ⟨⟨j, c⟩, he, rfl⟩ := List.mem_map.mp h
    obtain ⟨hmem, hj⟩ := List.mem_filter.mp he
    obtain rfl : j = i := of_decide_eq_true hj
    exact hmem
  · intro h
    exact List.mem_map.mpr ⟨(i, b), List.mem_filter.mpr ⟨h, decide_eq_true rfl⟩, rfl⟩

/-- Where each one contributes the images of a list of its own, the whole history is the image of
a history of these lists. -/
theorem exists_eventsOf {f : γ → β} {xs : ι → List γ} {merged : List (ι × β)}
    (h : ∀ i, eventsOf i merged = (xs i).map f) :
    ∃ served : List (ι × γ), served.map (fun e => (e.1, f e.2)) = merged ∧
      ∀ i, eventsOf i served = xs i := by
  induction merged generalizing xs with
  | nil =>
    refine ⟨[], rfl, ?_⟩
    intro i
    exact (List.map_eq_nil_iff.mp (h i).symm).symm
  | cons e merged ih =>
    obtain ⟨j, b⟩ := e
    have hj := h j
    rw [eventsOf_cons_self] at hj
    obtain ⟨c, rest, hxs, rfl, hrest⟩ := List.map_eq_cons_iff.mp hj.symm
    have hothers : ∀ i, eventsOf i merged = (Function.update xs j rest i).map f := by
      intro i
      by_cases hi : i = j
      · subst hi
        rw [Function.update_self, hrest]
      · rw [Function.update_of_ne hi, ← h i, eventsOf_cons_ne (Ne.symm hi)]
    obtain ⟨served, hserved, hof⟩ := ih hothers
    refine ⟨(j, c)::served, by rw [List.map_cons, hserved], ?_⟩
    intro i
    by_cases hi : i = j
    · subst hi
      rw [eventsOf_cons_self, hof, Function.update_self, hxs]
    · rw [eventsOf_cons_ne (Ne.symm hi), hof, Function.update_of_ne hi]

/-- `merged` is the history of what the readers put out. -/
structure Multiplexed (ι κ α β : Type*) where
  control : ι → κ
  buffer : ι → List α
  arrived : ι → List α
  merged : List (ι × β)

inductive LoopAction (ι α : Type*) where
  | arrive (i : ι) (piece : List α)
  | turn (i : ι)

namespace Multiplexed

def start (k : κ) : Multiplexed ι κ α β := ⟨fun _ => k, fun _ => [], fun _ => [], []⟩

/-- A piece of the stream of `i` arrives; or `i` takes one step, whatever the others do. -/
def step (R : Reader κ α) (out : κ → List β) (s : Multiplexed ι κ α β) :
    LoopAction ι α → Option (Multiplexed ι κ α β)
  | .arrive i piece =>
      some { s with
        buffer := Function.update s.buffer i (s.buffer i ++ piece)
        arrived := Function.update s.arrived i (s.arrived i ++ piece) }
  | .turn i =>
      (R.step (s.control i) (s.buffer i)).map fun r =>
        { s with
          control := Function.update s.control i r.1
          buffer := Function.update s.buffer i r.2
          merged :=
            s.merged ++ ((out r.1).drop (out (s.control i)).length).map fun b => (i, b) }

theorem merged_step {R : Reader κ α} {out : κ → List β} {s t : Multiplexed ι κ α β}
    {a : LoopAction ι α} (h : s.step R out a = some t) : s.merged <+: t.merged := by
  cases a with
  | arrive i piece =>
    cases h
    exact List.prefix_refl _
  | turn i =>
    obtain ⟨r, _, rfl⟩ := Option.map_eq_some_iff.mp h
    exact List.prefix_append _ _

theorem out_step {R : Reader κ α} {out : κ → List β} {s t : Multiplexed ι κ α β}
    (hgrows : ∀ k l r, R.step k l = some r → out k <+: out r.1)
    {a : LoopAction ι α} (h : s.step R out a = some t) (i : ι) :
    out (s.control i) <+: out (t.control i) := by
  cases a with
  | arrive j piece =>
    cases h
    exact List.prefix_refl _
  | turn j =>
    obtain ⟨r, hr, rfl⟩ := Option.map_eq_some_iff.mp h
    by_cases hj : i = j
    · subst hj
      dsimp only
      rw [Function.update_self]
      exact hgrows _ _ r hr
    · have hsame : Function.update s.control j r.1 i = s.control i := Function.update_of_ne hj _ _
      exact ⟨[], (List.append_nil _).trans (congrArg out hsame.symm)⟩

theorem arrived_turn {R : Reader κ α} {out : κ → List β} {s t : Multiplexed ι κ α β} {j : ι}
    (h : s.step R out (.turn j) = some t) : t.arrived = s.arrived := by
  obtain ⟨r, _, rfl⟩ := Option.map_eq_some_iff.mp h
  rfl

/-- Each reader is where it would be without the others. -/
structure Apart (R : Reader κ α) (out : κ → List β) (k : κ) (s : Multiplexed ι κ α β) : Prop where
  settle : ∀ i, R.settle (s.control i) (s.buffer i) = R.settle k (s.arrived i)
  merged : ∀ i, eventsOf i s.merged = out (s.control i)

variable {R : Reader κ α} {out : κ → List β} {k : κ} {s t : Multiplexed ι κ α β}

theorem apart_start (hout : out k = []) : Apart R out k (start k : Multiplexed ι κ α β) where
  settle _ := rfl
  merged _ := hout.symm

theorem Apart.arrive (h : s.Apart R out k) (i : ι) (piece : List α) :
    Apart R out k { s with
      buffer := Function.update s.buffer i (s.buffer i ++ piece)
      arrived := Function.update s.arrived i (s.arrived i ++ piece) } where
  settle j := by
    by_cases hj : j = i
    · subst hj
      dsimp only
      rw [Function.update_self, Function.update_self, Reader.settle_append, h.settle j,
        ← Reader.settle_append]
    · dsimp only
      rw [Function.update_of_ne hj, Function.update_of_ne hj]
      exact h.settle j
  merged := h.merged

theorem Apart.turn (hgrows : ∀ k l r, R.step k l = some r → out k <+: out r.1)
    (h : s.Apart R out k) {i : ι} {r : κ × List α}
    (hr : R.step (s.control i) (s.buffer i) = some r) :
    Apart R out k { s with
      control := Function.update s.control i r.1
      buffer := Function.update s.buffer i r.2
      merged := s.merged ++ ((out r.1).drop (out (s.control i)).length).map fun b => (i, b) } where
  settle j := by
    by_cases hj : j = i
    · subst hj
      dsimp only
      rw [Function.update_self, Function.update_self, ← h.settle j]
      exact (Stepper.settle_some hr).symm
    · dsimp only
      rw [Function.update_of_ne hj, Function.update_of_ne hj]
      exact h.settle j
  merged j := by
    dsimp only
    rw [eventsOf_append, h.merged j]
    by_cases hj : j = i
    · subst hj
      rw [eventsOf_tagged_self, Function.update_self]
      exact (List.prefix_iff_eq_append.mp (hgrows _ _ r hr))
    · rw [eventsOf_tagged_ne (Ne.symm hj), Function.update_of_ne hj, List.append_nil]

theorem Apart.step (hgrows : ∀ k l r, R.step k l = some r → out k <+: out r.1)
    (h : s.Apart R out k) {a : LoopAction ι α} (ha : s.step R out a = some t) :
    t.Apart R out k := by
  cases a with
  | arrive i piece =>
    cases ha
    exact h.arrive i piece
  | turn i =>
    obtain ⟨r, hr, rfl⟩ := Option.map_eq_some_iff.mp ha
    exact h.turn hgrows hr

/-- What a reader has put out so far is the beginning of what it puts out of all that has arrived
for it, and all of that once it waits. -/
theorem Apart.events (hgrows : ∀ k l r, R.step k l = some r → out k <+: out r.1)
    (h : s.Apart R out k) (i : ι) :
    eventsOf i s.merged <+: out (R.settle k (s.arrived i)).1 ∧
      (R.step (s.control i) (s.buffer i) = none →
        eventsOf i s.merged = out (R.settle k (s.arrived i)).1) := by
  rw [h.merged i, ← h.settle i]
  constructor
  · exact Stepper.settle_grows _ hgrows (s.control i) (s.buffer i)
  · intro hwaits
    rw [Stepper.settle_none hwaits]

end Multiplexed

end KinectHelper
