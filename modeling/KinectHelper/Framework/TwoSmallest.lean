import Mathlib.Algebra.Order.Field.Basic
import Mathlib.Data.List.Induction
import Mathlib.Data.List.Nodup

namespace KinectHelper

/-- The smallest value so far with its index, and the second smallest. -/
structure TwoSmallest (ι K : Type*) where
  dist1 : K
  dist2 : K
  neighbor : ι

namespace TwoSmallest

variable {ι K : Type*}

section Order

variable [LinearOrder K]

def add (s : TwoSmallest ι K) (i : ι) (d : K) : TwoSmallest ι K :=
  if d < s.dist1 then ⟨d, s.dist1, i⟩
  else if d < s.dist2 then { s with dist2 := d }
  else s

/-- `s` has seen the values `d` at the indices `l`, none of which is `e`, starting from `e` with
the value `B` twice. -/
structure Tracks (e : ι) (B : K) (d : ι → K) (l : List ι) (s : TwoSmallest ι K) : Prop where
  absent : e ∉ l
  ordered : s.dist1 ≤ s.dist2
  second_le : s.dist2 ≤ B
  not_found : s.neighbor = e → s.dist1 = B
  found : s.neighbor ≠ e → s.neighbor ∈ l ∧ d s.neighbor = s.dist1 ∧ s.dist1 < B
  others : ∀ k ∈ l, k ≠ s.neighbor → s.dist2 ≤ d k
  attained : s.dist2 = B ∨ ∃ k ∈ l, k ≠ s.neighbor ∧ d k = s.dist2

variable {e : ι} {B : K} {d : ι → K} {l : List ι} {s : TwoSmallest ι K}

theorem tracks_nil (e : ι) (B : K) (d : ι → K) : Tracks e B d [] ⟨B, B, e⟩ where
  absent := List.not_mem_nil
  ordered := le_refl B
  second_le := le_refl B
  not_found := fun _ => rfl
  found := fun h => absurd rfl h
  others := nofun
  attained := Or.inl rfl

/-- Anything above the second smallest changes nothing. -/
theorem Tracks.add_above (h : Tracks e B d l s) (i : ι) {x : K} (hx : s.dist2 < x) :
    s.add i x = s := by
  have h2 : ¬ x < s.dist2 := hx.not_gt
  have h1 : ¬ x < s.dist1 := fun hlt => h2 (hlt.trans_le h.ordered)
  rw [add, if_neg h1, if_neg h2]

theorem Tracks.add (h : Tracks e B d l s) {i : ι} (hi : i ∉ l) (hie : i ≠ e) :
    Tracks e B d (l ++ [i]) (s.add i (d i)) := by
  have habsent : e ∉ l ++ [i] := by
    simp [h.absent, hie.symm]
  have hother : s.neighbor ≠ i := by
    intro hsame
    have hne : s.neighbor ≠ e := by rwa [hsame]
    exact hi (hsame ▸ (h.found hne).1)
  unfold TwoSmallest.add
  by_cases h1 : d i < s.dist1
  · rw [if_pos h1]
    refine
      { absent := habsent
        ordered := h1.le
        second_le := h.ordered.trans h.second_le
        not_found := fun hsame => absurd hsame hie
        found := fun _ => ⟨by simp, rfl, h1.trans_le (h.ordered.trans h.second_le)⟩
        others := ?_
        attained := ?_ }
    · intro k hk hki
      have hkl : k ∈ l := by simpa [hki] using hk
      by_cases hkn : k = s.neighbor
      · have hne : s.neighbor ≠ e := by
          intro hsame
          exact h.absent (hsame ▸ hkn ▸ hkl)
        rw [hkn, (h.found hne).2.1]
      · exact h.ordered.trans (h.others k hkl hkn)
    · by_cases hne : s.neighbor = e
      · exact Or.inl (h.not_found hne)
      · obtain ⟨hmem, hvalue, _⟩ := h.found hne
        exact Or.inr ⟨s.neighbor, List.mem_append_left _ hmem, hother, hvalue⟩
  rw [if_neg h1]
  by_cases h2 : d i < s.dist2
  · rw [if_pos h2]
    exact
      { absent := habsent
        ordered := not_lt.mp h1
        second_le := h2.le.trans h.second_le
        not_found := h.not_found
        found := fun hne => ⟨List.mem_append_left _ (h.found hne).1, (h.found hne).2⟩
        others := by
          intro k hk hkn
          rcases List.mem_append.mp hk with hkl | hlast
          · exact h2.le.trans (h.others k hkl hkn)
          · rw [List.mem_singleton.mp hlast]
        attained := Or.inr ⟨i, by simp, hother.symm, rfl⟩ }
  · rw [if_neg h2]
    exact
      { h with
        absent := habsent
        found := fun hne => ⟨List.mem_append_left _ (h.found hne).1, (h.found hne).2⟩
        others := by
          intro k hk hkn
          rcases List.mem_append.mp hk with hkl | hlast
          · exact h.others k hkl hkn
          · rw [List.mem_singleton.mp hlast]
            exact not_lt.mp h2
        attained := by
          rcases h.attained with hB | ⟨k, hk, hrest⟩
          · exact Or.inl hB
          · exact Or.inr ⟨k, List.mem_append_left _ hk, hrest⟩ }

end Order

section Ratio

variable [Field K] [LinearOrder K] [IsStrictOrderedRing K]
variable {e : ι} {B : K} {d : ι → K} {l : List ι} {s : TwoSmallest ι K}

/-- The ratio test singles out the index whose value is below `c` times every other one. -/
theorem Tracks.ratio_iff (h : Tracks e B d l s) {c : K} (hc : 0 < c) (hc1 : c < 1)
    (hpos : ∀ k ∈ l, 0 ≤ d k) (j : ι) :
    j ≠ e ∧ s.neighbor = j ∧ s.dist1 < c * s.dist2 ↔
      j ∈ l ∧ d j < c * B ∧ ∀ k ∈ l, k ≠ j → d j < c * d k := by
  constructor
  · intro ⟨hj, hneighbor, hratio⟩
    subst hneighbor
    obtain ⟨hmem, hvalue, _⟩ := h.found hj
    rw [hvalue]
    refine ⟨hmem, hratio.trans_le (mul_le_mul_of_nonneg_left h.second_le hc.le), ?_⟩
    intro k hk hkj
    exact hratio.trans_le (mul_le_mul_of_nonneg_left (h.others k hk hkj) hc.le)
  · intro ⟨hj, hbound, hwins⟩
    have hje : j ≠ e := fun hsame => h.absent (hsame ▸ hj)
    have hneighbor : s.neighbor = j := by
      by_contra hne
      have hsecond := h.others j hj (Ne.symm hne)
      -- the smallest value is at most that of `j`, which is below `c` times it
      have hsmall : d j < c * s.dist1 := by
        by_cases hstart : s.neighbor = e
        · rwa [h.not_found hstart]
        · obtain ⟨hmem, hvalue, _⟩ := h.found hstart
          rw [← hvalue]
          exact hwins _ hmem hne
      have hle : c * s.dist1 ≤ c * d j :=
        mul_le_mul_of_nonneg_left (h.ordered.trans hsecond) hc.le
      have hshrink : c * d j ≤ d j := mul_le_of_le_one_left (hpos j hj) hc1.le
      exact absurd (hsmall.trans_le (hle.trans hshrink)) (lt_irrefl _)
    refine ⟨hje, hneighbor, ?_⟩
    obtain ⟨_, hvalue, _⟩ := h.found (hneighbor ▸ hje)
    rw [← hvalue, hneighbor]
    rcases h.attained with hB2 | ⟨k, hk, hkn, hdk⟩
    · rwa [hB2]
    · rw [← hdk]
      exact hwins k hk (hneighbor ▸ hkn)

end Ratio

end TwoSmallest

theorem lt_foldr_min_iff {K : Type*} [LinearOrder K] (x B : K) (l : List K) :
    x < l.foldr min B ↔ x < B ∧ ∀ y ∈ l, x < y := by
  induction l with
  | nil => simp
  | cons y l ih =>
    rw [List.foldr_cons, lt_min_iff, ih, List.forall_mem_cons]
    tauto

end KinectHelper
