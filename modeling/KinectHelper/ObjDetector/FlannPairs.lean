import KinectHelper.ObjDetector.FindPairs

namespace KinectHelper.ObjectDetector

variable {P K : Type*} {length : Nat}

section Pairs

variable {m n : Nat}

theorem ptpairsOf_injective : Function.Injective (@ptpairsOf m n) := by
  intro p q h
  induction p generalizing q with
  | nil =>
    cases q with
    | nil => rfl
    | cons b q => simp [ptpairsOf] at h
  | cons a p ih =>
    cases q with
    | nil => simp [ptpairsOf] at h
    | cons b q =>
      simp only [ptpairsOf, List.flatMap_cons, List.cons_append, List.nil_append, List.cons.injEq,
        Int.natCast_inj, Fin.val_inj] at h
      rw [Prod.ext h.1 h.2.1, ih h.2.2]

theorem winnerPairs_injective : Function.Injective (@winnerPairs m n) := by
  intro winner winner' h
  funext i
  apply Option.ext
  intro j
  rw [← mem_winnerPairs, ← mem_winnerPairs, h]

end Pairs

/-- What `knnSearch` returns for a query: the two nearest rows, with their squared distances in
order. -/
def TwoNearest [LinearOrder K] {n : Nat} (d : Fin n → K) (r : Neighbors K) : Prop :=
  ∃ j k : Fin n, j ≠ k ∧ r.index0 = j ∧ r.index1 = k ∧ r.dist0 = d j ∧ r.dist1 = d k ∧
    d j ≤ d k ∧ ∀ l, l ≠ j → d k ≤ d l

theorem TwoNearest.exists_ne [LinearOrder K] {n : Nat} {d : Fin n → K} {r : Neighbors K}
    (h : TwoNearest d r) (j : Fin n) : ∃ k, k ≠ j := by
  obtain ⟨j0, k0, hne, _⟩ := h
  by_cases hj : j0 = j
  · exact ⟨k0, hj ▸ hne.symm⟩
  · exact ⟨j0, hj⟩

variable [Field K] [LinearOrder K]

/-- Feature `j` passes the ratio test for `i` against every other feature with `p`. -/
def PassesAgainst (object image : Features P K length) (i : Fin object.total)
    (j : Fin image.total) (p : Fin image.total → Prop) : Prop :=
  ∀ k, k ≠ j → p k → distance object image i j < ratio K * distance object image i k

/-- The rows that `knnSearch` fills for two sets of features. -/
def knnRows (knnSearch : KnnSearch K) (object image : Features P K length) : Nat → Neighbors K :=
  knnSearch (List.ofFn image.descriptor) (List.ofFn object.descriptor)

/-- The image feature that `FlannFindPairs` pairs with feature `i`. -/
def flannWinner (knnSearch : KnnSearch K) (object image : Features P K length)
    (i : Fin object.total) : Option (Fin image.total) :=
  let r := knnRows knnSearch object image i
  if r.dist0 < ratio K * r.dist1 then toIndex image.total r.index0 else none

theorem flannFindPairs_eq {object image : Features P K length} {knnSearch : KnnSearch K}
    (hknn : ∀ i : Fin object.total,
      TwoNearest (distance object image i) (knnRows knnSearch object image i)) (acc : List Int) :
    flannFindPairs knnSearch object image acc =
      acc ++ ptpairsOf (winnerPairs (flannWinner knnSearch object image)) := by
  refine foldl_push _ ?_ acc
  intro acc i
  obtain ⟨j0, k0, _, hj0, _⟩ := hknn i
  rw [knnRows] at hj0
  unfold flannFindPair flannWinner knnRows
  dsimp only
  split_ifs
  · rw [hj0, (toIndex_eq_some_iff _ j0).mpr rfl]
    rfl
  · exact (List.append_nil acc).symm

variable [IsStrictOrderedRing K]

theorem flannWinner_eq_some_iff {object image : Features P K length} {knnSearch : KnnSearch K}
    {i : Fin object.total}
    (hknn : TwoNearest (distance object image i) (knnRows knnSearch object image i))
    (j : Fin image.total) :
    flannWinner knnSearch object image i = some j ↔
      PassesAgainst object image i j fun _ => True := by
  obtain ⟨j0, k0, hne, hj0, _, hd0, hd1, hordered, hfar⟩ := hknn
  have hpos : ∀ k, 0 ≤ distance object image i k := fun k => squaredDistance_nonneg _ _
  unfold flannWinner
  dsimp only
  rw [hj0, hd0, hd1]
  constructor
  · intro h
    split_ifs at h with htest
    rw [toIndex_eq_some_iff, Int.natCast_inj, Fin.val_inj] at h
    subst h
    intro k hk _
    exact htest.trans_le (mul_le_mul_of_nonneg_left (hfar k hk) (by norm_num))
  · intro h
    have hj : j0 = j := by
      by_contra hother
      have hlt : distance object image i j < 3/5 * distance object image i j0 :=
        h j0 hother trivial
      have hle := hordered.trans (hfar j (Ne.symm hother))
      have hj0pos := hpos j0
      linarith
    subst hj
    rw [if_pos (h k0 hne.symm trivial), toIndex_eq_some_iff]

/-- The FLANN matcher agrees with the plain one if and only if the features of the other laplacian
never decide a ratio test. -/
theorem flann_agrees_iff (h4 : 4 ∣ length) (object image : Features P K length)
    (knnSearch : KnnSearch K)
    (hknn : ∀ i : Fin object.total,
      TwoNearest (distance object image i) (knnRows knnSearch object image i))
    (hnear : ∀ i j, distance object image i j < 10^6) :
    flannFindPairs knnSearch object image [] = findPairs object image [] ↔
      ∀ i j,
        ((image.keypoint j).laplacian ≠ (object.keypoint i).laplacian →
          ¬ PassesAgainst object image i j fun _ => True) ∧
        ((image.keypoint j).laplacian = (object.keypoint i).laplacian →
          distance object image i j < 3/5 * 10^6 →
          (PassesAgainst object image i j fun k =>
            (image.keypoint k).laplacian = (object.keypoint i).laplacian) →
          PassesAgainst object image i j fun k =>
            (image.keypoint k).laplacian ≠ (object.keypoint i).laplacian) := by
  have hlists : flannFindPairs knnSearch object image [] = findPairs object image [] ↔
      ∀ i j, (PassesAgainst object image i j fun _ => True) ↔ Matches object image i j := by
    rw [flannFindPairs_eq hknn, findPairs_eq h4, List.nil_append, ptpairsOf_injective.eq_iff,
      winnerPairs_injective.eq_iff, funext_iff]
    simp only [Option.ext_iff, flannWinner_eq_some_iff (hknn _), naiveWinner_eq_some_iff h4]
  rw [hlists]
  constructor
  · intro h i j
    constructor
    · intro hother hall
      exact hother ((h i j).mp hall).1
    · intro hsame hsmall hpasses k hk _
      have hmatches := (matches_iff object image i j).mpr ⟨hsame, hsmall, hpasses⟩
      exact (h i j).mpr hmatches k hk trivial
  · intro h i j
    constructor
    · intro hall
      have hsame : (image.keypoint j).laplacian = (object.keypoint i).laplacian := by
        by_contra hother
        exact (h i j).1 hother hall
      obtain ⟨k, hk⟩ := (hknn i).exists_ne j
      have hsmall : distance object image i j < 3/5 * 10^6 :=
        (hall k hk trivial).trans (mul_lt_mul_of_pos_left (hnear i k) (by norm_num))
      exact (matches_iff object image i j).mpr
        ⟨hsame, hsmall, fun k hk _ => hall k hk trivial⟩
    · intro hmatches
      obtain ⟨hsame, hsmall, hpasses⟩ := (matches_iff object image i j).mp hmatches
      intro k hk _
      by_cases hlap : (image.keypoint k).laplacian = (object.keypoint i).laplacian
      · exact hpasses k hk hlap
      · exact (h i j).2 hsame hsmall hpasses k hk hlap

/-- A search on two rows, the second of which is the query. -/
def secondRowSearch : KnnSearch ℚ := fun _ _ _ => ⟨1, 0, 0, 9⟩

theorem secondRowSearch_nearest (l0 l1 : Int) (i : Fin 1) :
    TwoNearest (distance (rowFeatures [(1, 0)]) (rowFeatures [(l0, 3), (l1, 0)]) i)
      (knnRows secondRowSearch (rowFeatures [(1, 0)]) (rowFeatures [(l0, 3), (l1, 0)]) i) := by
  have hnear := rowFeatures_distance [(1, 0)] [(l0, 3), (l1, 0)] i 1
  have hfar := rowFeatures_distance [(1, 0)] [(l0, 3), (l1, 0)] i 0
  norm_num at hnear hfar
  refine ⟨(1 : Fin 2), (0 : Fin 2), Fin.zero_ne_one.symm, rfl, rfl, hnear.symm, hfar.symm, ?_, ?_⟩
  · rw [hnear, hfar]
    norm_num
  · intro l hl
    have hl0 : ∀ k : Fin 2, k ≠ 1 → k = 0 := by decide
    rw [hl0 l hl]

/-- All three features have one laplacian. -/
theorem one_laplacian_agrees :
    flannFindPairs secondRowSearch (rowFeatures [(1, 0)]) (rowFeatures [(1, 3), (1, 0)]) [] =
      findPairs (rowFeatures [(1, 0)]) (rowFeatures [(1, 3), (1, 0)]) [] :=
  (flann_agrees_iff (by decide) (rowFeatures [(1, 0)]) (rowFeatures [(1, 3), (1, 0)])
    secondRowSearch (secondRowSearch_nearest 1 1) (by decide +kernel)).mpr (by
      unfold PassesAgainst
      decide +kernel)

/-- The nearest feature has the other laplacian: FLANN pairs with it, and the plain matcher with
the one behind it. -/
theorem other_laplacian_disagrees :
    (∀ i, TwoNearest (distance (rowFeatures [(1, 0)]) (rowFeatures [(1, 3), (-1, 0)]) i)
      (knnRows secondRowSearch (rowFeatures [(1, 0)]) (rowFeatures [(1, 3), (-1, 0)]) i)) ∧
    (∀ i j, distance (rowFeatures [(1, 0)]) (rowFeatures [(1, 3), (-1, 0)]) i j < 10^6) ∧
    flannFindPairs secondRowSearch (rowFeatures [(1, 0)]) (rowFeatures [(1, 3), (-1, 0)]) [] ≠
      findPairs (rowFeatures [(1, 0)]) (rowFeatures [(1, 3), (-1, 0)]) [] := by
  refine ⟨secondRowSearch_nearest 1 (-1), by decide +kernel, ?_⟩
  have hflann : flannFindPairs secondRowSearch (rowFeatures [(1, 0)])
      (rowFeatures [(1, 3), (-1, 0)]) [] = [0, 1] := by decide +kernel
  have hplain : findPairs (rowFeatures [(1, 0)]) (rowFeatures [(1, 3), (-1, 0)]) [] = [0, 0] := by
    decide +kernel
  rw [hflann, hplain]
  decide

end KinectHelper.ObjectDetector
