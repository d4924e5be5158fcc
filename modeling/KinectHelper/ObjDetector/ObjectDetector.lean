import Mathlib.Data.List.FinRange
import KinectHelper.Framework.TwoSmallest

namespace KinectHelper.ObjectDetector

/-- A `CvSURFPoint`; `pt` is its position. -/
structure KeyPoint (P : Type*) where
  pt : P
  laplacian : Int

/-- A keypoint and a descriptor sequence with equally many elements, `length` floats in each
descriptor. -/
structure Features (P K : Type*) (length : Nat) where
  total : Nat
  keypoint : Fin total → KeyPoint P
  descriptor : Fin total → List K
  elem_size : ∀ i, (descriptor i).length = length

variable {P K : Type*} {length : Nat}

/-- The `0.6` of the ratio tests. -/
abbrev ratio (K : Type*) [Field K] : K := 3/5

/-- The `1e6` that the search for the nearest starts from. -/
abbrev farthest (K : Type*) [Field K] : K := 10^6

section Naive

variable [Field K] [LinearOrder K]

/-- The loop of `CompareDescriptors`, from `total_cost` on. -/
def compareFrom (best : K) : List K → List K → K → K
  | a0::a1::a2::a3::d1, b0::b1::b2::b3::d2, total_cost =>
      let t0 := a0 - b0
      let t1 := a1 - b1
      let t2 := a2 - b2
      let t3 := a3 - b3
      let total_cost := total_cost + (t0*t0 + t1*t1 + t2*t2 + t3*t3)
      if total_cost > best then total_cost else compareFrom best d1 d2 total_cost
  | _, _, total_cost => total_cost

def compareDescriptors (d1 d2 : List K) (best : K) : K := compareFrom best d1 d2 0

/-- One turn of the loop of `NaiveNearestNeighbor`. -/
def nearestStep (vec : List K) (laplacian : Int) (model : Features P K length)
    (s : TwoSmallest Int K) (i : Fin model.total) : TwoSmallest Int K :=
  if laplacian ≠ (model.keypoint i).laplacian then s
  else s.add i (compareDescriptors vec (model.descriptor i) s.dist2)

def nearestLoop (vec : List K) (laplacian : Int) (model : Features P K length)
    (is : List (Fin model.total)) : TwoSmallest Int K :=
  is.foldl (nearestStep vec laplacian model) ⟨farthest K, farthest K, -1⟩

def naiveNearestNeighbor (vec : List K) (laplacian : Int) (model : Features P K length) : Int :=
  let s := nearestLoop vec laplacian model (List.finRange model.total)
  if s.dist1 < ratio K * s.dist2 then s.neighbor else -1

/-- One turn of the loop of `FindPairs`. -/
def findPair (object image : Features P K length) (ptpairs : List Int) (i : Fin object.total) :
    List Int :=
  let nearest_neighbor :=
    naiveNearestNeighbor (object.descriptor i) (object.keypoint i).laplacian image
  if 0 ≤ nearest_neighbor then ptpairs ++ [(i : Int), nearest_neighbor] else ptpairs

/-- `FindPairs`, which clears `ptpairs` first. -/
def findPairs (object image : Features P K length) (_ptpairs : List Int) : List Int :=
  (List.finRange object.total).foldl (findPair object image) []

end Naive

/-- A row of the matrices that `knnSearch` fills. -/
structure Neighbors (K : Type*) where
  index0 : Int
  index1 : Int
  dist0 : K
  dist1 : K

/-- `knnSearch` on an index of the first matrix, for the rows of the second. -/
abbrev KnnSearch (K : Type*) := List (List K) → List (List K) → Nat → Neighbors K

section Flann

variable [Field K] [LinearOrder K]

/-- One turn of the last loop of `FlannFindPairs`. -/
def flannFindPair {rows : Nat} (m : Nat → Neighbors K) (ptpairs : List Int) (i : Fin rows) :
    List Int :=
  if (m i).dist0 < ratio K * (m i).dist1 then ptpairs ++ [(i : Int), (m i).index0] else ptpairs

/-- `FlannFindPairs`; it gets the keypoints, and leaves them. -/
def flannFindPairs (knnSearch : KnnSearch K) (object image : Features P K length)
    (ptpairs : List Int) : List Int :=
  let m := knnSearch (List.ofFn image.descriptor) (List.ofFn object.descriptor)
  (List.finRange object.total).foldl (flannFindPair m) ptpairs

end Flann

end KinectHelper.ObjectDetector
