import Mathlib.Algebra.Order.BigOperators.Group.List
import Mathlib.Data.List.Induction
import Mathlib.Data.List.Sort
import Mathlib.Algebra.Order.Ring.Rat
import Mathlib.Tactic.Linarith
import Mathlib.Tactic.Ring
import KinectHelper.ObjDetector.ObjectDetector

namespace KinectHelper.ObjectDetector

variable {P K : Type*} {length : Nat}

section Pairs

variable {m n : Nat}

/-- The content of `ptpairs` for a list of pairs. -/
def ptpairsOf (pairs : List (Fin m × Fin n)) : List Int :=
  pairs.flatMap fun p => [(p.1 : Int), (p.2 : Int)]

/-- The pairs of a matcher that finds at most one `j` for each `i`. -/
def winnerPairs (winner : Fin m → Option (Fin n)) : List (Fin m × Fin n) :=
  (List.finRange m).filterMap fun i => (winner i).map fun j => (i, j)

variable (winner : Fin m → Option (Fin n))

theorem mem_winnerPairs (i : Fin m) (j : Fin n) :
    (i, j) ∈ winnerPairs winner ↔ winner i = some j := by
  simp [winnerPairs]

theorem winnerPairs_pairwise : (winnerPairs winner).Pairwise fun p q => p.1 < q.1 := by
  rw [winnerPairs, List.pairwise_filterMap]
  apply (List.pairwise_lt_finRange m).imp
  intro i i' hlt p hp q hq
  obtain ⟨j, _, hij⟩ := Option.map_eq_some_iff.mp hp
  obtain ⟨j', _, hij'⟩ := Option.map_eq_some_iff.mp hq
  rw [← hij, ← hij']
  exact hlt

/-- The index that an `int` stands for. -/
def toIndex (n : Nat) (k : Int) : Option (Fin n) :=
  if h : 0 ≤ k ∧ k.toNat < n then some ⟨k.toNat, h.2⟩ else none

theorem toIndex_eq_some_iff (k : Int) (j : Fin n) : toIndex n k = some j ↔ k = j := by
  unfold toIndex
  constructor
  · intro h
    split_ifs at h with hindex
    rw [← Option.some.inj h]
    dsimp only
    omega
  · intro h
    subst h
    simp

/-- A loop that pushes the winner of each turn. -/
theorem foldl_push {push : List Int → Fin m → List Int}
    (h : ∀ acc i, push acc i = acc ++ ((winner i).elim [] fun j => [(i : Int), (j : Int)]))
    (acc : List Int) :
    (List.finRange m).foldl push acc = acc ++ ptpairsOf (winnerPairs winner) := by
  unfold winnerPairs
  induction List.finRange m generalizing acc with
  | nil => simp [ptpairsOf]
  | cons i is ih =>
    rw [List.foldl_cons, h, ih, List.filterMap_cons, List.append_assoc]
    cases winner i <;> simp [ptpairsOf]

end Pairs

section Distance

variable [Field K]

def squaredDistance (d1 d2 : List K) : K := (List.zipWith (fun a b => (a - b) * (a - b)) d1 d2).sum

/-- `d(i,j)`, for the descriptors of the features `i` and `j`. -/
def distance (object image : Features P K length) (i : Fin object.total) (j : Fin image.total) :
    K :=
  squaredDistance (object.descriptor i) (image.descriptor j)

variable [LinearOrder K] [IsStrictOrderedRing K]

theorem squaredDistance_nonneg (d1 d2 : List K) : 0 ≤ squaredDistance d1 d2 := by
  apply List.sum_nonneg
  intro x hx
  obtain ⟨i, hi, hvalue⟩ := List.mem_iff_getElem.mp hx
  rw [← hvalue, List.getElem_zipWith]
  exact mul_self_nonneg _

/-- The full distance, or more than `best` by both counts. -/
theorem compareFrom_cases (best : K) (n : Nat) (d1 d2 : List K) (t : K) (h1 : d1.length = 4 * n)
    (h2 : d2.length = 4 * n) :
    compareFrom best d1 d2 t = t + squaredDistance d1 d2 ∨
      (best < compareFrom best d1 d2 t ∧ best < t + squaredDistance d1 d2) := by
  induction n generalizing d1 d2 t with
  | zero =>
    obtain rfl := List.length_eq_zero_iff.mp h1
    obtain rfl := List.length_eq_zero_iff.mp h2
    left
    simp [compareFrom, squaredDistance]
  | succ n ih =>
    match d1, d2, h1, h2 with
    | a0::a1::a2::a3::d1, b0::b1::b2::b3::d2, h1, h2 =>
      simp only [List.length_cons] at h1 h2
      have hsum : t + squaredDistance (a0::a1::a2::a3::d1) (b0::b1::b2::b3::d2) =
          t + ((a0 - b0) * (a0 - b0) + (a1 - b1) * (a1 - b1) + (a2 - b2) * (a2 - b2) +
            (a3 - b3) * (a3 - b3)) + squaredDistance d1 d2 := by
        simp only [squaredDistance, List.zipWith_cons_cons, List.sum_cons]
        ring
      rw [hsum, compareFrom]
      by_cases hexit : t + ((a0 - b0) * (a0 - b0) + (a1 - b1) * (a1 - b1) +
          (a2 - b2) * (a2 - b2) + (a3 - b3) * (a3 - b3)) > best
      · right
        rw [if_pos hexit]
        have hrest := squaredDistance_nonneg d1 d2
        exact ⟨hexit, by linarith⟩
      · rw [if_neg hexit]
        exact ih d1 d2 _ (by omega) (by omega)

theorem compareDescriptors_cases (h4 : 4 ∣ length) (best : K) (d1 d2 : List K)
    (h1 : d1.length = length) (h2 : d2.length = length) :
    compareDescriptors d1 d2 best = squaredDistance d1 d2 ∨
      (best < compareDescriptors d1 d2 best ∧ best < squaredDistance d1 d2) := by
  obtain ⟨n, hn⟩ := h4
  have h := compareFrom_cases best n d1 d2 0 (h1.trans hn) (h2.trans hn)
  rwa [zero_add] at h

end Distance

section Specification

variable [Field K] [LinearOrder K]

/-- The distances of feature `i` to the image features of its laplacian other than `j`. -/
def otherDistances (object image : Features P K length) (i : Fin object.total)
    (j : Fin image.total) : List K :=
  ((List.finRange image.total).filter fun k =>
    k ≠ j ∧ (image.keypoint k).laplacian = (object.keypoint i).laplacian).map
      (distance object image i)

/-- Feature `j` of the image passes the ratio test for feature `i` of the object. -/
def Matches (object image : Features P K length) (i : Fin object.total) (j : Fin image.total) :
    Prop :=
  (image.keypoint j).laplacian = (object.keypoint i).laplacian ∧
    distance object image i j <
      ratio K * (otherDistances object image i j).foldr min (farthest K)

variable [IsStrictOrderedRing K]

theorem lt_ratio_iff (x B : K) (l : List K) :
    x < 3/5 * l.foldr min B ↔ x < 3/5 * B ∧ ∀ y ∈ l, x < 3/5 * y := by
  have hscale : ∀ y : K, x < 3/5 * y ↔ x / (3/5) < y := by
    intro y
    rw [div_lt_iff₀' (by norm_num)]
  simp only [hscale]
  exact lt_foldr_min_iff _ B l

theorem matches_iff (object image : Features P K length) (i : Fin object.total)
    (j : Fin image.total) :
    Matches object image i j ↔
      (image.keypoint j).laplacian = (object.keypoint i).laplacian ∧
      distance object image i j < 3/5 * 10^6 ∧
      ∀ k, k ≠ j → (image.keypoint k).laplacian = (object.keypoint i).laplacian →
        distance object image i j < 3/5 * distance object image i k := by
  have hothers : (∀ y ∈ otherDistances object image i j, distance object image i j < 3/5 * y) ↔
      ∀ k, k ≠ j → (image.keypoint k).laplacian = (object.keypoint i).laplacian →
        distance object image i j < 3/5 * distance object image i k := by
    simp only [otherDistances, List.forall_mem_map, List.mem_filter, List.mem_finRange, true_and,
      decide_eq_true_eq, and_imp]
  rw [Matches, lt_ratio_iff, hothers]

end Specification

section Indices

variable {vec : List K} {laplacian : Int} {model : Features P K length}

/-- The distance of the descriptor at index `k`. -/
def distanceAt [Field K] (vec : List K) (model : Features P K length) (k : Int) : K :=
  if h : k.toNat < model.total then squaredDistance vec (model.descriptor ⟨k.toNat, h⟩) else 0

theorem distanceAt_index [Field K] (i : Fin model.total) :
    distanceAt vec model i = squaredDistance vec (model.descriptor i) := by
  simp [distanceAt]

/-- The indices of a laplacian. -/
def indices (laplacian : Int) (model : Features P K length) (is : List (Fin model.total)) :
    List Int :=
  (is.filter fun i => laplacian = (model.keypoint i).laplacian).map
    fun i : Fin model.total => (i : Int)

theorem mem_indices (i : Fin model.total) (is : List (Fin model.total)) :
    (i : Int) ∈ indices laplacian model is ↔
      i ∈ is ∧ (model.keypoint i).laplacian = laplacian := by
  simp [indices, Fin.val_inj, eq_comm]

theorem exists_of_mem_indices {k : Int} {is : List (Fin model.total)}
    (h : k ∈ indices laplacian model is) :
    ∃ i : Fin model.total, k = i ∧ (model.keypoint i).laplacian = laplacian := by
  obtain ⟨i, hi, rfl⟩ := List.mem_map.mp h
  exact ⟨i, rfl, ((mem_indices i is).mp h).2⟩

end Indices

section Naive

variable [Field K] [LinearOrder K] [IsStrictOrderedRing K]
variable {vec : List K} {laplacian : Int} {model : Features P K length}

/-- The loop of `NaiveNearestNeighbor` keeps the two smallest distances of the laplacian. -/
theorem nearest_tracks (h4 : 4 ∣ length) (hvec : vec.length = length)
    (is : List (Fin model.total)) (his : is.Nodup) :
    TwoSmallest.Tracks (-1) (10^6) (distanceAt vec model) (indices laplacian model is)
      (nearestLoop vec laplacian model is) := by
  induction is using List.reverseRecOn with
  | nil => exact TwoSmallest.tracks_nil _ _ _
  | append_singleton is i ih =>
    have hnew : i ∉ is := by
      intro hmem
      exact (List.nodup_append.mp his).2.2 i hmem i (by simp) rfl
    have htracks := ih (List.nodup_append.mp his).1
    rw [nearestLoop, List.foldl_append, List.foldl_cons, List.foldl_nil, ← nearestLoop]
    set s := nearestLoop vec laplacian model is
    unfold nearestStep
    by_cases hlap : laplacian = (model.keypoint i).laplacian
    · rw [if_neg (not_not.mpr hlap)]
      have hindices : indices laplacian model (is ++ [i]) =
          indices laplacian model is ++ [(i : Int)] := by
        simp [indices, List.filter_append, hlap]
      have hfresh : (i : Int) ∉ indices laplacian model is := by
        rw [mem_indices]
        exact fun h => hnew h.1
      have hadd := htracks.add hfresh (by omega)
      rw [distanceAt_index, ← hindices] at hadd
      rcases compareDescriptors_cases h4 s.dist2 vec (model.descriptor i) hvec
        (model.elem_size i) with hfull | ⟨hexit, habove⟩
      · rwa [hfull]
      · -- an early exit leaves the state as the full distance does
        rw [htracks.add_above _ hexit]
        rwa [htracks.add_above _ habove] at hadd
    · rw [if_pos hlap]
      have hindices : indices laplacian model (is ++ [i]) = indices laplacian model is := by
        simp [indices, List.filter_append, hlap]
      rwa [hindices]

/-- The result of `NaiveNearestNeighbor` is an index, or -1. -/
theorem nearest_cases (h4 : 4 ∣ length) (hvec : vec.length = length) :
    naiveNearestNeighbor vec laplacian model = -1 ∨
      ∃ j : Fin model.total, naiveNearestNeighbor vec laplacian model = j := by
  have htracks := @nearest_tracks _ _ _ _ _ _ vec laplacian model h4 hvec
    (List.finRange model.total) (List.nodup_finRange _)
  unfold naiveNearestNeighbor
  dsimp only
  split_ifs
  · by_cases hfound : (nearestLoop vec laplacian model (List.finRange model.total)).neighbor = -1
    · exact Or.inl hfound
    · obtain ⟨i, hi, _⟩ := exists_of_mem_indices (htracks.found hfound).1
      exact Or.inr ⟨i, hi⟩
  · exact Or.inl rfl

theorem nearest_iff (h4 : 4 ∣ length) (hvec : vec.length = length) (j : Fin model.total) :
    naiveNearestNeighbor vec laplacian model = j ↔
      (model.keypoint j).laplacian = laplacian ∧
      squaredDistance vec (model.descriptor j) < 3/5 * 10^6 ∧
      ∀ k, k ≠ j → (model.keypoint k).laplacian = laplacian →
        squaredDistance vec (model.descriptor j) <
          3/5 * squaredDistance vec (model.descriptor k) := by
  have htracks := @nearest_tracks _ _ _ _ _ _ vec laplacian model h4 hvec
    (List.finRange model.total) (List.nodup_finRange _)
  have hnonneg : ∀ k ∈ indices laplacian model (List.finRange model.total),
      0 ≤ distanceAt vec model k := by
    intro k hk
    obtain ⟨i, rfl, _⟩ := exists_of_mem_indices hk
    rw [distanceAt_index]
    exact squaredDistance_nonneg _ _
  have hratio := htracks.ratio_iff (c := 3/5) (by norm_num) (by norm_num) hnonneg j
  have hindex : ((j : Nat) : Int) ≠ -1 := by omega
  have hothers : (∀ k ∈ indices laplacian model (List.finRange model.total), k ≠ j →
      distanceAt vec model j < 3/5 * distanceAt vec model k) ↔
      ∀ k, k ≠ j → (model.keypoint k).laplacian = laplacian →
        squaredDistance vec (model.descriptor j) <
          3/5 * squaredDistance vec (model.descriptor k) := by
    rw [distanceAt_index]
    constructor
    · intro h k hkj hk
      have hwins := h k ((mem_indices k _).mpr ⟨List.mem_finRange k, hk⟩)
        (by simpa [Fin.val_inj] using hkj)
      rwa [distanceAt_index] at hwins
    · intro h k hk hkj
      obtain ⟨i, rfl, hi⟩ := exists_of_mem_indices hk
      rw [distanceAt_index]
      exact h i (by simpa [Fin.val_inj] using hkj) hi
  rw [hothers, mem_indices, distanceAt_index] at hratio
  simp only [List.mem_finRange, true_and] at hratio
  rw [← hratio]
  unfold naiveNearestNeighbor
  dsimp only
  constructor
  · intro h
    split_ifs at h with htest
    exact ⟨hindex, h, htest⟩
  · intro ⟨_, hneighbor, htest⟩
    rw [if_pos htest]
    exact hneighbor

/-- The image feature that `NaiveNearestNeighbor` finds for feature `i` of the object. -/
def naiveWinner (object image : Features P K length) (i : Fin object.total) :
    Option (Fin image.total) :=
  toIndex image.total
    (naiveNearestNeighbor (object.descriptor i) (object.keypoint i).laplacian image)

theorem naiveWinner_eq_some_iff (h4 : 4 ∣ length) (object image : Features P K length)
    (i : Fin object.total) (j : Fin image.total) :
    naiveWinner object image i = some j ↔ Matches object image i j := by
  rw [matches_iff, naiveWinner, toIndex_eq_some_iff]
  exact nearest_iff h4 (object.elem_size i) j

theorem findPair_eq (h4 : 4 ∣ length) (object image : Features P K length) (acc : List Int)
    (i : Fin object.total) :
    findPair object image acc i =
      acc ++ ((naiveWinner object image i).elim [] fun j => [(i : Int), (j : Int)]) := by
  rcases @nearest_cases _ _ _ _ _ _ _ (object.keypoint i).laplacian image h4
    (object.elem_size i) with hnone | ⟨j, hj⟩
  · have hwinner : naiveWinner object image i = none := by
      rw [naiveWinner, hnone]
      rfl
    rw [hwinner, findPair, hnone]
    simp
  · have hwinner : naiveWinner object image i = some j := (toIndex_eq_some_iff _ j).mpr hj
    rw [hwinner, findPair, hj]
    simp

theorem findPairs_eq (h4 : 4 ∣ length) (object image : Features P K length)
    (ptpairs : List Int) :
    findPairs object image ptpairs = ptpairsOf (winnerPairs (naiveWinner object image)) := by
  rw [findPairs, foldl_push _ (findPair_eq h4 object image), List.nil_append]

/-- The order of the image features is a renaming. -/
theorem matches_renamed (object image image' : Features P K length)
    (ρ : Fin image.total ≃ Fin image'.total)
    (hρ : ∀ k, image'.keypoint (ρ k) = image.keypoint k ∧
      image'.descriptor (ρ k) = image.descriptor k) (i : Fin object.total) (j : Fin image.total) :
    Matches object image' i (ρ j) ↔ Matches object image i j := by
  have hdistance : ∀ k, distance object image' i (ρ k) = distance object image i k := by
    intro k
    rw [distance, distance, (hρ k).2]
  rw [matches_iff, matches_iff, hdistance, (hρ j).1, ρ.surjective.forall]
  simp only [hdistance, (hρ _).1, ne_eq, EmbeddingLike.apply_eq_iff_eq]

end Naive

/-- `FindPairs` finds the features that pass the ratio test, and their order does not matter. -/
theorem findPairs_spec [Field K] [LinearOrder K] [IsStrictOrderedRing K] (h4 : 4 ∣ length)
    (object image : Features P K length) (ptpairs : List Int) :
    ∃ pairs : List (Fin object.total × Fin image.total),
      findPairs object image ptpairs = ptpairsOf pairs ∧
      (pairs.Pairwise fun p q => p.1 < q.1) ∧
      (∀ i j, (i, j) ∈ pairs ↔ Matches object image i j) ∧
      ∀ (image' : Features P K length) (ρ : Fin image.total ≃ Fin image'.total),
        (∀ k, image'.keypoint (ρ k) = image.keypoint k ∧
          image'.descriptor (ρ k) = image.descriptor k) →
        findPairs object image' ptpairs = ptpairsOf (pairs.map fun p => (p.1, ρ p.2)) := by
  refine ⟨winnerPairs (naiveWinner object image), findPairs_eq h4 object image ptpairs,
    winnerPairs_pairwise _, ?_, ?_⟩
  · intro i j
    rw [mem_winnerPairs, naiveWinner_eq_some_iff h4]
  · intro image' ρ hρ
    have hwinner : ∀ i, naiveWinner object image' i = (naiveWinner object image i).map ρ := by
      intro i
      apply Option.ext
      intro j
      obtain ⟨k, rfl⟩ := ρ.surjective j
      rw [naiveWinner_eq_some_iff h4, matches_renamed object image image' ρ hρ,
        ← naiveWinner_eq_some_iff h4]
      simp
    rw [findPairs_eq h4, winnerPairs, winnerPairs, List.map_filterMap]
    simp only [hwinner, Option.map_map]
    rfl

/-- Features with a laplacian and the first number of a descriptor; the others are zero. -/
def rowFeatures (rows : List (Int × ℚ)) : Features Unit ℚ 4 where
  total := rows.length
  keypoint i := ⟨(), rows[i].1⟩
  descriptor i := [rows[i].2, 0, 0, 0]
  elem_size _ := rfl

theorem rowFeatures_distance (rows rows' : List (Int × ℚ)) (i : Fin rows.length)
    (j : Fin rows'.length) :
    distance (rowFeatures rows) (rowFeatures rows') i j =
      (rows[i].2 - rows'[j].2) * (rows[i].2 - rows'[j].2) := by
  simp [distance, squaredDistance, rowFeatures]

/-- The nearest feature of the other laplacian is passed over. -/
example : findPairs (rowFeatures [(1, 0)]) (rowFeatures [(1, 3), (-1, 0), (1, 1)]) [] = [0, 2] := by
  decide +kernel

theorem three_features_pairs :
    ∃ pairs : List (Fin 1 × Fin 3),
      findPairs (rowFeatures [(1, 0)]) (rowFeatures [(1, 3), (-1, 0), (1, 1)]) [] =
        ptpairsOf pairs ∧
      (pairs.Pairwise fun p q => p.1 < q.1) ∧
      ∀ i j, (i, j) ∈ pairs ↔
        Matches (rowFeatures [(1, 0)]) (rowFeatures [(1, 3), (-1, 0), (1, 1)]) i j := by
  obtain ⟨pairs, hpairs, hsorted, hmem, _⟩ := findPairs_spec (by decide) (rowFeatures [(1, 0)])
    (rowFeatures [(1, 3), (-1, 0), (1, 1)]) []
  exact ⟨pairs, hpairs, hsorted, hmem⟩

end KinectHelper.ObjectDetector
