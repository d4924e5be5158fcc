import Mathlib.Data.List.Nodup

namespace KinectHelper

variable {α β : Type*}

/-- The elements at the other indices, in order. -/
def removeAt (l : List α) (indices : List Nat) : List α :=
  (l.zipIdx.filter fun p => p.2 ∉ indices).map Prod.fst

/-- What the rounds take, each by indices into what the rounds before it left. -/
def taken (l : List α) : List (List Nat) → List α
  | [] => []
  | indices::rounds => (indices.filterMap fun i => l[i]?) ++ taken (removeAt l indices) rounds

example : taken ['a', 'b', 'c', 'd'] [[0, 2], [1]] = ['a', 'c', 'd'] := rfl

theorem removeAt_map (f : α → β) (l : List α) (indices : List Nat) :
    removeAt (l.map f) indices = (removeAt l indices).map f := by
  simp only [removeAt, List.zipIdx_map, List.filter_map, List.map_map]
  rfl

theorem foldl_removeAt_map (f : α → β) (l : List α) (rounds : List (List Nat)) :
    rounds.foldl removeAt (l.map f) = (rounds.foldl removeAt l).map f := by
  induction rounds generalizing l with
  | nil => rfl
  | cons indices rounds ih => rw [List.foldl_cons, List.foldl_cons, removeAt_map, ih]

theorem removeAt_nil (l : List α) : removeAt l [] = l := by
  simp [removeAt, List.zipIdx_map_fst]

theorem removeAt_subset (l : List α) (indices : List Nat) : removeAt l indices ⊆ l := by
  intro a ha
  obtain ⟨⟨b, i⟩, hb, hab⟩ := List.mem_map.mp ha
  have hmem := List.fst_mem_of_mem_zipIdx (List.mem_of_mem_filter hb)
  rwa [← hab]

theorem removeAt_length_lt {l : List α} {indices : List Nat} {i : Nat} (hi : i ∈ indices)
    (hlt : i < l.length) : (removeAt l indices).length < l.length := by
  rw [removeAt, List.length_map, ← List.length_zipIdx (l := l) (i := 0)]
  apply List.length_filter_lt_length_iff_exists.mpr
  refine ⟨(l[i], i), List.mem_zipIdx_iff_getElem?.mpr (List.getElem?_eq_getElem hlt), ?_⟩
  simpa using hi

/-- A filter on the elements is one on the elements with their places. -/
theorem filter_eq_zipIdx (q : α → Bool) (l : List α) :
    l.filter q = (l.zipIdx.filter fun p => q p.1).map Prod.fst := by
  conv_lhs => rw [← List.zipIdx_map_fst 0 l]
  rw [List.filter_map]
  rfl

section Key

variable [DecidableEq β] (f : α → β)

/-- Under distinct keys, the indices of a round select the elements with their keys. -/
theorem removeAt_eq_filter {l : List α} (hnodup : (l.map f).Nodup) (indices : List Nat) :
    removeAt l indices = l.filter fun a => f a ∉ indices.filterMap fun i => (l.map f)[i]? := by
  rw [filter_eq_zipIdx, removeAt]
  congr 1
  apply List.filter_congr
  intro ⟨a, i⟩ hmem
  have hi : (l.map f)[i]? = some (f a) := by
    rw [List.getElem?_map, List.mem_zipIdx_iff_getElem?.mp hmem]
    rfl
  have hiff : i ∈ indices ↔ f a ∈ indices.filterMap fun i => (l.map f)[i]? := by
    rw [List.mem_filterMap]
    constructor
    · intro hindex
      exact ⟨i, hindex, hi⟩
    · intro ⟨j, hj, hkey⟩
      have hlt : j < (l.map f).length := (List.getElem?_eq_some_iff.mp hkey).1
      have heq : j = i := (List.getElem?_inj hlt hnodup).mp (hkey.trans hi.symm)
      rwa [← heq]
  simp only [hiff]

/-- What all rounds leave is, in order, what none of them takes. -/
theorem foldl_removeAt_eq_filter {l : List α} (hnodup : (l.map f).Nodup)
    (rounds : List (List Nat)) :
    rounds.foldl removeAt l = l.filter fun a => f a ∉ taken (l.map f) rounds := by
  induction rounds generalizing l with
  | nil => simp [taken]
  | cons indices rounds ih =>
    have hrest : ((removeAt l indices).map f).Nodup := by
      rw [removeAt_eq_filter f hnodup]
      exact List.Nodup.sublist (List.filter_sublist.map f) hnodup
    rw [List.foldl_cons, ih hrest, ← removeAt_map, taken]
    conv_lhs => rw [removeAt_eq_filter f hnodup]
    rw [List.filter_filter]
    apply List.filter_congr
    intro a _
    rw [← Bool.decide_and, decide_eq_decide, List.mem_append, not_or, and_comm]

end Key

/-- The elements at the positions that no round takes, in order. -/
theorem foldl_removeAt (l : List α) (rounds : List (List Nat)) :
    rounds.foldl removeAt l =
      (l.zipIdx.filter fun p => p.2 ∉ taken (List.range l.length) rounds).map Prod.fst := by
  have hkeys : l.zipIdx.map Prod.snd = List.range l.length := by
    rw [List.zipIdx_map_snd, List.range_eq_range']
  have hnodup : (l.zipIdx.map Prod.snd).Nodup := by
    rw [hkeys]
    exact List.nodup_range
  conv_lhs => rw [← List.zipIdx_map_fst 0 l]
  rw [foldl_removeAt_map, foldl_removeAt_eq_filter Prod.snd hnodup, hkeys]

end KinectHelper
