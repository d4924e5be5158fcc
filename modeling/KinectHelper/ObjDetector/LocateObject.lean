import Mathlib.Algebra.Order.Field.Basic
import Mathlib.Tactic.NormNum
import KinectHelper.ObjDetector.ObjectDefinition

namespace KinectHelper.ObjectDetector

variable {P K : Type*} {length : Nat}

/-- The element at which `cvGetSeqElem` points. -/
def getSeqElem {α : Type*} (cv : OpenCV) (seq : List α) (index : Int) : Option α :=
  (cv.cvGetSeqElem seq.length index).bind fun k => seq[k]?

/-- The points of the pairs; `none` is an index without an element. -/
def pairPoints (cv : OpenCV) (objectKeypoints imageKeypoints : List (KeyPoint P)) :
    List Int → Option (List P × List P)
  | i::j::ptpairs => do
      let k1 ← getSeqElem cv objectKeypoints i
      let k2 ← getSeqElem cv imageKeypoints j
      let (pt1, pt2) ← pairPoints cv objectKeypoints imageKeypoints ptpairs
      pure (k1.pt::pt1, k2.pt::pt2)
  | _ => some ([], [])

/-- `cvFindHomography`, which fails or fills a matrix. -/
abbrev FindHomography (P K : Type*) := List P → List P → Option (Fin 9 → K)

def mapCorner [Field K] (cvRound : K → Int) (h : Fin 9 → K) (corner : CvPoint) : CvPoint :=
  let x : K := corner.x
  let y : K := corner.y
  let Z := 1 / (h 6*x + h 7*y + h 8)
  let X := (h 0*x + h 1*y + h 2)*Z
  let Y := (h 3*x + h 4*y + h 5)*Z
  ⟨cvRound X, cvRound Y⟩

section Locate

variable [Field K] [LinearOrder K]
variable (cv : OpenCV) (knnSearch : KnnSearch K) (findHomography : FindHomography P K)
variable (cvRound : K → Int)

/-- `LocatePlanarObject`, with `dst_corners` when it returns true; `none` is a fault. -/
def locatePlanarObject (object image : Features P K length) (src_corners : Fin 4 → CvPoint) :
    Option (Option (Fin 4 → CvPoint)) :=
  let ptpairs := flannFindPairs knnSearch object image []
  if ptpairs.length / 2 < 4 then some none
  else
    (pairPoints cv (List.ofFn object.keypoint) (List.ofFn image.keypoint) ptpairs).map fun pts =>
      (findHomography pts.1 pts.2).map fun h i => mapCorner cvRound h (src_corners i)

def locateObject (object imageDefinition : ObjectDefinition P K length) :
    Option (Option (Fin 4 → CvPoint)) :=
  locatePlanarObject cv knnSearch findHomography cvRound object.features imageDefinition.features
    object.corners

end Locate

namespace Features

def descriptors (f : Features P K length) : List (List K) := List.ofFn f.descriptor

def points (f : Features P K length) : List P := List.ofFn fun i => (f.keypoint i).pt

theorem descriptors_length (f : Features P K length) : f.descriptors.length = f.total :=
  List.length_ofFn

theorem map_keypoint (f : Features P K length) :
    (List.ofFn f.keypoint).map KeyPoint.pt = f.points :=
  List.map_ofFn

end Features

section Points

variable {cv : OpenCV}

theorem getSeqElem_map {α β : Type*} (g : α → β) (seq : List α) (index : Int) :
    (getSeqElem cv seq index).map g = getSeqElem cv (seq.map g) index := by
  unfold getSeqElem
  rw [List.length_map, Option.map_bind]
  congr 1
  funext k
  simp

theorem getSeqElem_index {α : Type*} {seq : List α} {k : Nat} (h : k < seq.length) :
    getSeqElem cv seq k = some seq[k] := by
  unfold getSeqElem
  rw [cv.element h, Option.bind_some, List.getElem?_eq_getElem h]

variable {objectKeypoints imageKeypoints : List (KeyPoint P)}

theorem pairPoints_cons (i j : Int) (ptpairs : List Int) :
    pairPoints cv objectKeypoints imageKeypoints (i::j::ptpairs) =
      (getSeqElem cv (objectKeypoints.map KeyPoint.pt) i).bind fun p1 =>
        (getSeqElem cv (imageKeypoints.map KeyPoint.pt) j).bind fun p2 =>
          (pairPoints cv objectKeypoints imageKeypoints ptpairs).map fun pts =>
            (p1::pts.1, p2::pts.2) := by
  simp only [← getSeqElem_map, Option.bind_map]
  simp only [pairPoints, Option.map_eq_bind]
  rfl

/-- Only the points of the keypoints matter. -/
theorem pairPoints_congr {objectKeypoints' imageKeypoints' : List (KeyPoint P)}
    (hobject : objectKeypoints.map KeyPoint.pt = objectKeypoints'.map KeyPoint.pt)
    (himage : imageKeypoints.map KeyPoint.pt = imageKeypoints'.map KeyPoint.pt)
    (ptpairs : List Int) :
    pairPoints cv objectKeypoints imageKeypoints ptpairs =
      pairPoints cv objectKeypoints' imageKeypoints' ptpairs := by
  induction ptpairs using pairPoints.induct with
  | case1 i j ptpairs ih => rw [pairPoints_cons, pairPoints_cons, hobject, himage, ih]
  | case2 ptpairs hshort => rw [pairPoints.eq_2 _ _ _ _ hshort, pairPoints.eq_2 _ _ _ _ hshort]

/-- The pairs of each index from `k` on with itself. -/
theorem pairPoints_self (n k : Nat) (hobject : objectKeypoints.length = k + n)
    (himage : imageKeypoints.length = k + n) :
    pairPoints cv objectKeypoints imageKeypoints
        ((List.range' k n).flatMap fun i : Nat => [(i : Int), (i : Int)]) =
      some ((objectKeypoints.map KeyPoint.pt).drop k, (imageKeypoints.map KeyPoint.pt).drop k) := by
  induction n generalizing k with
  | zero =>
    rw [List.drop_eq_nil_of_le (by simp [hobject]), List.drop_eq_nil_of_le (by simp [himage])]
    rfl
  | succ n ih =>
    have hrest := ih (k+1) (by omega) (by omega)
    have h1 : k < (objectKeypoints.map KeyPoint.pt).length := by
      rw [List.length_map]
      omega
    have h2 : k < (imageKeypoints.map KeyPoint.pt).length := by
      rw [List.length_map]
      omega
    rw [List.range'_succ, List.flatMap_cons, List.cons_append, List.cons_append, List.nil_append,
      pairPoints_cons, getSeqElem_index h1, getSeqElem_index h2, hrest,
      List.drop_eq_getElem_cons h1, List.drop_eq_getElem_cons h2]
    rfl

/-- Indices of elements have points. -/
theorem pairPoints_isSome (g : Nat → Int) (is : List Nat)
    (hinside : ∀ i ∈ is, i < objectKeypoints.length ∧ ∃ k < imageKeypoints.length, g i = k) :
    ∃ pts, pairPoints cv objectKeypoints imageKeypoints
      (is.flatMap fun i : Nat => [(i : Int), g i]) = some pts := by
  induction is with
  | nil => exact ⟨([], []), rfl⟩
  | cons i is ih =>
    rw [List.forall_mem_cons] at hinside
    obtain ⟨⟨hi, k, hk, hg⟩, hrest⟩ := hinside
    obtain ⟨pts, hpts⟩ := ih hrest
    have h1 : i < (objectKeypoints.map KeyPoint.pt).length := by
      rw [List.length_map]
      exact hi
    have h2 : k < (imageKeypoints.map KeyPoint.pt).length := by
      rw [List.length_map]
      exact hk
    rw [List.flatMap_cons, List.cons_append, List.cons_append, List.nil_append,
      pairPoints_cons, hg, getSeqElem_index h1, getSeqElem_index h2, hpts]
    exact ⟨_, rfl⟩

end Points

section Pairs

variable [Field K] [LinearOrder K]

theorem pairs_length (g : Nat → Int) (is : List Nat) :
    (is.flatMap fun i : Nat => [(i : Int), g i]).length = 2 * is.length := by
  induction is with
  | nil => rfl
  | cons i is ih =>
    rw [List.flatMap_cons, List.length_append, ih, List.length_cons, List.length_cons,
      List.length_cons, List.length_nil]
    omega

/-- The ratio test. -/
def Neighbors.Passes (r : Neighbors K) : Prop := r.dist0 < ratio K * r.dist1

instance (r : Neighbors K) : Decidable r.Passes :=
  inferInstanceAs (Decidable (r.dist0 < ratio K * r.dist1))

theorem flannFindPair_eq {rows : Nat} (m : Nat → Neighbors K) (acc : List Int) (i : Fin rows) :
    flannFindPair m acc i = if (m i).Passes then acc ++ [(i : Int), (m i).index0] else acc := rfl

/-- The pairs of the rows that pass. -/
theorem flannFindPair_foldl {rows : Nat} (m : Nat → Neighbors K) (is : List (Fin rows))
    (acc : List Int) :
    is.foldl (flannFindPair m) acc =
      acc ++ ((is.map Fin.val).filter fun i => (m i).Passes).flatMap
        fun i : Nat => [(i : Int), (m i).index0] := by
  induction is generalizing acc with
  | nil => simp
  | cons i is ih =>
    rw [List.foldl_cons, ih, flannFindPair_eq, List.map_cons]
    by_cases hpass : (m i).Passes
    · rw [if_pos hpass, List.filter_cons_of_pos (by simpa using hpass), List.flatMap_cons,
        List.append_assoc]
    · rw [if_neg hpass, List.filter_cons_of_neg (by simpa using hpass)]

variable (knnSearch : KnnSearch K) (object image : Features P K length)

theorem flannFindPairs_eq_flatMap :
    flannFindPairs knnSearch object image [] =
      ((List.range object.total).filter fun i =>
        (knnSearch image.descriptors object.descriptors i).Passes).flatMap
          fun i : Nat =>
            [(i : Int), (knnSearch image.descriptors object.descriptors i).index0] := by
  rw [flannFindPairs, flannFindPair_foldl, List.nil_append, List.map_coe_finRange_eq_range]
  rfl

theorem flannFindPairs_length_le :
    (flannFindPairs knnSearch object image []).length / 2 ≤ object.total := by
  have hrows := List.length_filter_le
    (fun i => decide (knnSearch image.descriptors object.descriptors i).Passes)
    (List.range object.total)
  rw [List.length_range] at hrows
  rw [flannFindPairs_eq_flatMap, pairs_length]
  omega

variable {knnSearch object image}

theorem flannFindPairs_none
    (hnone : ∀ i, ¬ (knnSearch image.descriptors object.descriptors i).Passes) :
    flannFindPairs knnSearch object image [] = [] := by
  rw [flannFindPairs_eq_flatMap]
  simp [hnone]

theorem flannFindPairs_all
    (hall : ∀ i, (knnSearch image.descriptors object.descriptors i).Passes) :
    flannFindPairs knnSearch object image [] =
      (List.range object.total).flatMap fun i : Nat =>
        [(i : Int), (knnSearch image.descriptors object.descriptors i).index0] := by
  rw [flannFindPairs_eq_flatMap]
  simp [hall]

end Pairs

section Results

variable [Field K] [LinearOrder K]
variable {cv : OpenCV} {knnSearch : KnnSearch K} {findHomography : FindHomography P K}
variable {cvRound : K → Int}
variable {object image : Features P K length} {corners : Fin 4 → CvPoint}

theorem locatePlanarObject_few (hfew : object.total < 4) :
    locatePlanarObject cv knnSearch findHomography cvRound object image corners = some none := by
  have hle := flannFindPairs_length_le knnSearch object image
  unfold locatePlanarObject
  exact if_pos (by omega)

theorem locatePlanarObject_none
    (hnone : ∀ i, ¬ (knnSearch image.descriptors object.descriptors i).Passes) :
    locatePlanarObject cv knnSearch findHomography cvRound object image corners = some none := by
  unfold locatePlanarObject
  rw [flannFindPairs_none hnone]
  rfl

/-- With four pairs and a homography, the object is found, or an index leaves the keypoints. -/
theorem locatePlanarObject_all (hmany : 4 ≤ object.total)
    (hall : ∀ i, (knnSearch image.descriptors object.descriptors i).Passes)
    (hfound : ∀ pt1 pt2, findHomography pt1 pt2 ≠ none) :
    locatePlanarObject cv knnSearch findHomography cvRound object image corners ≠ some none := by
  have hlength := pairs_length
    (fun i => (knnSearch image.descriptors object.descriptors i).index0)
    (List.range object.total)
  rw [List.length_range] at hlength
  unfold locatePlanarObject
  rw [flannFindPairs_all hall]
  dsimp only
  rw [if_neg (by omega)]
  intro h
  obtain ⟨pts, _, hnone⟩ := Option.map_eq_some_iff.mp h
  exact hfound _ _ (Option.map_eq_none_iff.mp hnone)

/-- Each keypoint is paired with the one of its index. -/
theorem locatePlanarObject_self (hmany : 4 ≤ object.total) (htotal : image.total = object.total)
    (hself : ∀ i : Nat, (knnSearch image.descriptors object.descriptors i).Passes ∧
      (knnSearch image.descriptors object.descriptors i).index0 = i) :
    locatePlanarObject cv knnSearch findHomography cvRound object image corners =
      some ((findHomography object.points image.points).map
        fun h i => mapCorner cvRound h (corners i)) := by
  have hpairs : flannFindPairs knnSearch object image [] =
      (List.range' 0 object.total).flatMap fun i : Nat => [(i : Int), (i : Int)] := by
    rw [flannFindPairs_all fun i => (hself i).1, List.range_eq_range']
    simp only [(hself _).2]
  have hpoints := @pairPoints_self _ cv (List.ofFn object.keypoint) (List.ofFn image.keypoint)
    object.total 0 (by simp) (by simp [htotal])
  have hlength := pairs_length (fun i => (i : Int)) (List.range' 0 object.total)
  rw [List.length_range'] at hlength
  unfold locatePlanarObject
  rw [hpairs]
  dsimp only
  rw [if_neg (by omega), hpoints, object.map_keypoint, image.map_keypoint]
  rfl

/-- The matcher returns, if the rows that pass name keypoints of the image. -/
theorem locatePlanarObject_isSome
    (hnamed : ∀ i < object.total, (knnSearch image.descriptors object.descriptors i).Passes →
      ∃ k < image.total, (knnSearch image.descriptors object.descriptors i).index0 = k) :
    ∃ found, locatePlanarObject cv knnSearch findHomography cvRound object image corners =
      some found := by
  have hpoints : ∃ pts, pairPoints cv (List.ofFn object.keypoint) (List.ofFn image.keypoint)
      (flannFindPairs knnSearch object image []) = some pts := by
    rw [flannFindPairs_eq_flatMap]
    apply pairPoints_isSome
    intro i hi
    obtain ⟨hrange, hpass⟩ := List.mem_filter.mp hi
    have hlt := List.mem_range.mp hrange
    rw [List.length_ofFn, List.length_ofFn]
    exact ⟨hlt, hnamed i hlt (of_decide_eq_true hpass)⟩
  obtain ⟨pts, hpts⟩ := hpoints
  unfold locatePlanarObject
  dsimp only
  split_ifs with hfew
  · exact ⟨none, rfl⟩
  · rw [hpts]
    exact ⟨_, rfl⟩

/-- The matcher reads no more of a definition than its descriptors and points. -/
theorem locatePlanarObject_congr {object' image' : Features P K length}
    (hobject : object.descriptors = object'.descriptors ∧ object.points = object'.points)
    (himage : image.descriptors = image'.descriptors ∧ image.points = image'.points) :
    locatePlanarObject cv knnSearch findHomography cvRound object image corners =
      locatePlanarObject cv knnSearch findHomography cvRound object' image' corners := by
  have htotal : object.total = object'.total := by
    rw [← object.descriptors_length, hobject.1, object'.descriptors_length]
  have hpairs : flannFindPairs knnSearch object image [] =
      flannFindPairs knnSearch object' image' [] := by
    rw [flannFindPairs_eq_flatMap, flannFindPairs_eq_flatMap, hobject.1, himage.1, htotal]
  have hobjectPoints := object.map_keypoint.trans (hobject.2.trans object'.map_keypoint.symm)
  have himagePoints := image.map_keypoint.trans (himage.2.trans image'.map_keypoint.symm)
  unfold locatePlanarObject
  dsimp only
  rw [hpairs, pairPoints_congr hobjectPoints himagePoints]

end Results

end KinectHelper.ObjectDetector
