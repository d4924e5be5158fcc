import Mathlib.Data.List.Basic
import Mathlib.Tactic.Ring
import KinectHelper.Framework.Loop
import KinectHelper.Framework.Removal
import KinectHelper.Framework.Rounding
import KinectHelper.Segmentation.CreatePointCloud

namespace KinectHelper.PclSegmentation

/-- The models that `GetModelName` tries, in the order of their `SacModel` values. -/
inductive SacModel where
  | plane
  | circle2D
  | sphere
  | cylinder
  deriving DecidableEq

/-- The parts of PCL that `FindClusters` uses, with the settings of `PclSegmentation`. -/
structure Pcl (P : Type*) where
  voxelGrid : List P → List P
  passThrough : List P → List P
  segment : List P → List Nat
  extract : List P → List (List Nat)
  weightNormalModel : SacModel → List P → Nat

/-- PCL selects among the points it is given. -/
structure Pcl.Selects {P : Type*} (pcl : Pcl P) : Prop where
  passed : ∀ cloud p, p ∈ pcl.passThrough cloud → p ∈ cloud
  inlier : ∀ cloud i, i ∈ pcl.segment cloud → i < cloud.length
  index : ∀ cloud, ∀ indices ∈ pcl.extract cloud, ∀ i ∈ indices, i < cloud.length

/-- PCL extracts no empty cluster. -/
def Pcl.NonemptyClusters {P : Type*} (pcl : Pcl P) : Prop :=
  ∀ cloud, ∀ indices ∈ pcl.extract cloud, indices ≠ []

/-- The members that `CreatePointCloud` and `FindClusters` write; before the first cloud,
`m_cloud` has no points. -/
structure Segmentation (P : Type*) where
  m_cloud : List P
  m_frameWidth : Nat
  m_frameHeight : Nat
  m_clusters : List (List P)
  m_models : List String
  deriving DecidableEq

variable {P : Type*}

def Segmentation.start : Segmentation P := ⟨[], 0, 0, [], []⟩

/-- What `CreatePointCloud` leaves. -/
def Segmentation.fill (s : Segmentation P) (width height : Nat) (points : List P) :
    Segmentation P :=
  { s with m_cloud := points, m_frameWidth := width, m_frameHeight := height }

/-- `(int) cloud_filtered->points.size()`. -/
def intSize (size : Nat) : Int := (size : Int).bmod (2^32)

/-- `size > m_iterLimit * nr_points` in `float`; `0.3f` is `10066330 / 2^25`. -/
def aboveLimit (size : Nat) (nr_points : Int) : Bool :=
  nr_points < 0 ∨
    roundSig floatBits (10066330 * roundSig floatBits nr_points.toNat) <
      roundSig floatBits size * 2^25

/-- `ExtractIndices`, set to negative. -/
def extractNegative (cloud : List P) (inliers : List Nat) : List P :=
  (cloud.zipIdx.filter fun p => p.2 ∉ inliers).map Prod.fst

/-- The loop that removes the planes; `none` is a loop that goes on after `n` turns. -/
def removePlanes (segment : List P → List Nat) (nr_points : Int) : Nat → List P → Option (List P)
  | 0, _ => none
  | n+1, cloud_filtered =>
      if aboveLimit cloud_filtered.length nr_points then
        let inliers := segment cloud_filtered
        if inliers.length = 0 then some cloud_filtered
        else removePlanes segment nr_points n (extractNegative cloud_filtered inliers)
      else some cloud_filtered

/-- One turn of the loop of `GetModelName`, over `np` and the name. -/
def heavierModel (pcl : Pcl P) (cluster : List P) (best : Nat × String)
    (model : SacModel × String) : Nat × String :=
  let weight := pcl.weightNormalModel model.1 cluster
  if best.1 < weight then (weight, model.2) else best

def getModelName (pcl : Pcl P) (cluster : List P) : String :=
  ([(SacModel.plane, "PLANE"), (.circle2D, "CIRCLE2D"), (.sphere, "SPHERE"),
    (.cylinder, "CYLINDER")].foldl (heavierModel pcl cluster) (4, "UNKNOWN MODEL")).2

/-- The points of the indices; `none` is an index outside of the cloud. -/
def pointsAt (cloud : List P) (indices : List Nat) : Option (List P) :=
  indices.mapM fun i => cloud[i]?

/-- The planes are gone after one turn for each point, and one more. -/
def filteredCloud (pcl : Pcl P) (m_cloud : List P) : Option (List P) :=
  let cloud_filtered := pcl.passThrough (pcl.voxelGrid m_cloud)
  removePlanes pcl.segment (intSize cloud_filtered.length) (cloud_filtered.length + 1)
    cloud_filtered

def findClusters (pcl : Pcl P) (s : Segmentation P) : Option (Segmentation P) := do
  let cloud_filtered ← filteredCloud pcl s.m_cloud
  if cloud_filtered.length = 0 then some { s with m_clusters := [] }
  else
    let m_clusters ← (pcl.extract cloud_filtered).mapM (pointsAt cloud_filtered)
    some { s with m_clusters := m_clusters, m_models := m_clusters.map (getModelName pcl) }

/-- The clusters that `FindClusters` finds in a cloud. -/
def clustersOf (pcl : Pcl P) (m_cloud : List P) : Option (List (List P)) :=
  (filteredCloud pcl m_cloud).bind fun cloud_filtered =>
    if cloud_filtered.length = 0 then some []
    else (pcl.extract cloud_filtered).mapM (pointsAt cloud_filtered)

section Planes

theorem extractNegative_eq (cloud : List P) (inliers : List Nat) :
    extractNegative cloud inliers = removeAt cloud inliers := rfl

variable {segment : List P → List Nat} {nr_points : Int}

theorem removePlanes_subset {n : Nat} {cloud rest : List P}
    (h : removePlanes segment nr_points n cloud = some rest) : rest ⊆ cloud := by
  induction n generalizing cloud with
  | zero => simp [removePlanes] at h
  | succ n ih =>
    rw [removePlanes] at h
    dsimp only at h
    split_ifs at h
    · obtain rfl := Option.some.inj h
      exact List.Subset.refl _
    · exact List.Subset.trans (ih h) (removeAt_subset _ _)
    · obtain rfl := Option.some.inj h
      exact List.Subset.refl _

/-- Each turn removes a point. -/
theorem removePlanes_isSome (hinlier : ∀ cloud i, i ∈ segment cloud → i < cloud.length) (n : Nat)
    (cloud : List P) (hn : cloud.length < n) :
    ∃ rest, removePlanes segment nr_points n cloud = some rest := by
  induction n generalizing cloud with
  | zero => omega
  | succ n ih =>
    rw [removePlanes]
    by_cases habove : aboveLimit cloud.length nr_points = true
    · rw [if_pos habove]
      dsimp only
      by_cases hnone : (segment cloud).length = 0
      · rw [if_pos hnone]
        exact ⟨cloud, rfl⟩
      · rw [if_neg hnone]
        obtain ⟨i, hi⟩ := List.exists_mem_of_length_pos (Nat.pos_of_ne_zero hnone)
        have hlt := removeAt_length_lt hi (hinlier cloud i hi)
        rw [extractNegative_eq]
        exact ih _ (by omega)
    · rw [if_neg habove]
      exact ⟨cloud, rfl⟩

end Planes

section Clusters

variable {pcl : Pcl P}

theorem filteredCloud_isSome (hpcl : pcl.Selects) (m_cloud : List P) :
    ∃ cloud, filteredCloud pcl m_cloud = some cloud :=
  removePlanes_isSome hpcl.inlier _ _ (Nat.lt_succ_self _)

theorem filteredCloud_subset (hpcl : pcl.Selects) {m_cloud cloud : List P}
    (h : filteredCloud pcl m_cloud = some cloud) : cloud ⊆ pcl.voxelGrid m_cloud := by
  intro p hp
  exact hpcl.passed _ p (removePlanes_subset h hp)

theorem clustersOf_isSome (hpcl : pcl.Selects) (m_cloud : List P) :
    ∃ clusters, clustersOf pcl m_cloud = some clusters := by
  obtain ⟨cloud, hcloud⟩ := filteredCloud_isSome hpcl m_cloud
  unfold clustersOf
  rw [hcloud, Option.bind_some]
  by_cases hempty : cloud.length = 0
  · exact ⟨[], if_pos hempty⟩
  · rw [if_neg hempty]
    apply mapM_isSome
    intro indices hindices
    apply mapM_isSome
    intro i hi
    exact ⟨_, List.getElem?_eq_getElem (hpcl.index cloud indices hindices i hi)⟩

/-- Every cluster has the points of its indices. -/
theorem clustersOf_indices {m_cloud cluster : List P} {clusters : List (List P)}
    (h : clustersOf pcl m_cloud = some clusters) (hcluster : cluster ∈ clusters) :
    ∃ cloud, filteredCloud pcl m_cloud = some cloud ∧
      ∃ indices ∈ pcl.extract cloud, pointsAt cloud indices = some cluster := by
  obtain ⟨cloud, hcloud, hrest⟩ := Option.bind_eq_some_iff.mp h
  refine ⟨cloud, hcloud, ?_⟩
  split_ifs at hrest
  · obtain rfl := Option.some.inj hrest
    exact absurd hcluster List.not_mem_nil
  · exact mapM_forall hrest cluster hcluster

theorem clustersOf_ne_nil (hpcl : pcl.NonemptyClusters) {m_cloud : List P}
    {clusters : List (List P)} (h : clustersOf pcl m_cloud = some clusters) :
    ∀ cluster ∈ clusters, cluster ≠ [] := by
  intro cluster hcluster hnil
  obtain ⟨cloud, _, indices, hindices, hpoints⟩ := clustersOf_indices h hcluster
  rw [hnil, pointsAt, mapM_nil_iff] at hpoints
  exact hpcl cloud indices hindices hpoints

theorem clustersOf_subset (hpcl : pcl.Selects) {m_cloud : List P} {clusters : List (List P)}
    (h : clustersOf pcl m_cloud = some clusters) :
    ∀ cluster ∈ clusters, cluster ⊆ pcl.voxelGrid m_cloud := by
  intro cluster hcluster p hp
  obtain ⟨cloud, hcloud, _, _, hpoints⟩ := clustersOf_indices h hcluster
  obtain ⟨i, _, hi⟩ := mapM_forall hpoints p hp
  exact filteredCloud_subset hpcl hcloud (List.mem_of_getElem? hi)

/-- What `FindClusters` does. -/
theorem findClusters_cases {s s' : Segmentation P} (h : findClusters pcl s = some s') :
    clustersOf pcl s.m_cloud = some s'.m_clusters ∧
      (s'.m_clusters ≠ [] → s'.m_models = s'.m_clusters.map (getModelName pcl)) ∧
      s'.m_frameWidth = s.m_frameWidth ∧ s'.m_frameHeight = s.m_frameHeight ∧
      s'.m_cloud = s.m_cloud := by
  unfold findClusters at h
  obtain ⟨cloud, hcloud, hrest⟩ := Option.bind_eq_some_iff.mp h
  unfold clustersOf
  rw [hcloud, Option.bind_some]
  split_ifs at hrest ⊢
  · obtain rfl := Option.some.inj hrest
    exact ⟨rfl, fun hne => absurd rfl hne, rfl, rfl, rfl⟩
  · obtain ⟨clusters, hclusters, hlast⟩ := Option.bind_eq_some_iff.mp hrest
    obtain rfl := Option.some.inj hlast
    exact ⟨hclusters, fun _ => rfl, rfl, rfl, rfl⟩

theorem findClusters_isSome (hpcl : pcl.Selects) (s : Segmentation P) :
    ∃ s', findClusters pcl s = some s' := by
  obtain ⟨clusters, hclusters⟩ := clustersOf_isSome hpcl s.m_cloud
  obtain ⟨cloud, hcloud, hrest⟩ := Option.bind_eq_some_iff.mp hclusters
  unfold findClusters
  rw [hcloud, Option.bind_eq_bind, Option.bind_some]
  split_ifs at hrest ⊢
  · exact ⟨_, rfl⟩
  · rw [hrest]
    exact ⟨_, rfl⟩

end Clusters

end KinectHelper.PclSegmentation
