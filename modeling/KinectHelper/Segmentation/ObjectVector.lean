import Mathlib.Data.List.Forall2
import Mathlib.Data.Rat.Floor
import KinectHelper.Framework.Extent
import KinectHelper.Framework.Mean
import KinectHelper.Framework.Run
import KinectHelper.Segmentation.FindClusters

namespace KinectHelper.PclObjectDetector

open PclSegmentation

structure ObjectBounds where
  x : Int
  y : Int
  width : Int
  height : Int
  deriving DecidableEq

/-- The arithmetic of `CreatePointCloud` and of `ConvertPointToScreen`; both are given the width
and the height of the frame. -/
structure Camera (P : Type*) where
  point : Nat → Nat → Nat → Nat → Nat → P
  convertPointToScreen : Nat → Nat → P → Int × Int

/-- What the worker and `Detect` hand on to each other, and the result. -/
structure Detector (P : Type*) where
  m_seg : Segmentation P
  m_objects : List ObjectBounds
  deriving DecidableEq

variable {P : Type*}

def Detector.start : Detector P := ⟨Segmentation.start, []⟩

def getObjectVector (d : Detector P) : List ObjectBounds := d.m_objects

/-- The least and the greatest coordinates so far. -/
structure Corners where
  xmin : Int
  xmax : Int
  ymin : Int
  ymax : Int

def Corners.add (c : Corners) (cur : Int × Int) : Corners where
  xmax := max c.xmax cur.1
  xmin := min c.xmin cur.1
  ymax := max c.ymax cur.2
  ymin := min c.ymin cur.2

/-- The loop over the points of a cluster. -/
def addPoints (screen : P → Int × Int) (c : Corners) (cloud : List P) : Corners :=
  cloud.foldl (fun c p => c.add (screen p)) c

/-- The bounds of a cluster; an empty one is passed over. -/
def clusterBounds (screen : P → Int × Int) : List P → Option ObjectBounds
  | [] => none
  | p::cloud =>
      let cur := screen p
      let c := addPoints screen ⟨cur.1, cur.1, cur.2, cur.2⟩ (p::cloud)
      some { x := c.xmin, y := c.ymin, width := c.xmax - c.xmin, height := c.ymax - c.ymin }

/-- The loop over the clusters, from the empty `m_objects` on. -/
def pushBounds (screen : P → Int × Int) (m_clusters : List (List P)) : List ObjectBounds :=
  m_clusters.foldl (fun m_objects cloud =>
    match clusterBounds screen cloud with
    | none => m_objects
    | some ob => m_objects ++ [ob]) []

/-- A pass of `DetectionWorker`; `none` is a fault or a loop that does not end. -/
def workerPass (pcl : Pcl P) (camera : Camera P) (d : Detector P) : Option (Detector P) :=
  (findClusters pcl d.m_seg).bind fun m_seg =>
    if 0 < m_seg.m_clusters.length then
      let screen := camera.convertPointToScreen m_seg.m_frameWidth m_seg.m_frameHeight
      let m_objects := pushBounds screen m_seg.m_clusters
      -- a model is printed with each object
      if m_objects.length ≤ m_seg.m_models.length then some ⟨m_seg, m_objects⟩ else none
    else some { d with m_seg := m_seg }

/-- `Detect` when it gets the mutex, with `turns` turns of the loops of `CreatePointCloud`; `none`
is a cloud that is not complete. -/
def detect (camera : Camera P) (frame : VideoFrame) (turns : Nat) (d : Detector P) :
    Option (Detector P) :=
  let width := toFloat frame.width
  let height := toFloat frame.height
  match createPointCloud frame (camera.point width height) turns with
  | .done points => some { d with m_seg := d.m_seg.fill width height points }
  | _ => none

inductive Call where
  | detect (frame : VideoFrame) (turns : Nat)
  | pass

structure Pass (P : Type*) where
  cloud : List P
  after : Detector P
  deriving DecidableEq

structure Session (P : Type*) where
  detector : Detector P
  passes : List (Pass P)
  deriving DecidableEq

def Session.start : Session P := ⟨Detector.start, []⟩

def call (pcl : Pcl P) (camera : Camera P) (s : Session P) : Call → Option (Session P)
  | .detect frame turns => (detect camera frame turns s.detector).map fun d =>
      { s with detector := d }
  | .pass => (workerPass pcl camera s.detector).map fun d =>
      ⟨d, s.passes ++ [⟨s.detector.m_seg.m_cloud, d⟩]⟩

/-- The bounds of the points, with no room to spare. -/
structure TightBox (screen : P → Int × Int) (cluster : List P) (ob : ObjectBounds) : Prop where
  columns : IsExtent ob.x (ob.x + ob.width) (cluster.map fun p => (screen p).1)
  rows : IsExtent ob.y (ob.y + ob.height) (cluster.map fun p => (screen p).2)

/-- The objects are those of the clusters, each with its model. -/
structure Describes (pcl : Pcl P) (camera : Camera P) (d : Detector P) : Prop where
  boxes : List.Forall₂
    (TightBox (camera.convertPointToScreen d.m_seg.m_frameWidth d.m_seg.m_frameHeight))
    d.m_seg.m_clusters (getObjectVector d)
  models : ∀ i < (getObjectVector d).length,
    ∃ cluster, d.m_seg.m_clusters[i]? = some cluster ∧
      d.m_seg.m_models[i]? = some (getModelName pcl cluster)

/-- The pass finds a cluster, or no pass before it has. -/
def NothingLeft (pcl : Pcl P) (earlier : List (Pass P)) (p : Pass P) : Prop :=
  clustersOf pcl p.cloud = some [] → ∀ q ∈ earlier, clustersOf pcl q.cloud = some []

section Boxes

variable {screen : P → Int × Int}

theorem addPoints_extent {seen : List P} {c : Corners} (cloud : List P)
    (hx : IsExtent c.xmin c.xmax (seen.map fun p => (screen p).1))
    (hy : IsExtent c.ymin c.ymax (seen.map fun p => (screen p).2)) :
    IsExtent (addPoints screen c cloud).xmin (addPoints screen c cloud).xmax
        ((seen ++ cloud).map fun p => (screen p).1) ∧
      IsExtent (addPoints screen c cloud).ymin (addPoints screen c cloud).ymax
        ((seen ++ cloud).map fun p => (screen p).2) := by
  induction cloud generalizing seen c with
  | nil =>
    rw [List.append_nil]
    exact ⟨hx, hy⟩
  | cons p cloud ih =>
    have hx' := hx.concat (screen p).1
    have hy' := hy.concat (screen p).2
    rw [show seen ++ p::cloud = (seen ++ [p]) ++ cloud by simp]
    apply ih
    · simpa [Corners.add] using hx'
    · simpa [Corners.add] using hy'

theorem clusterBounds_tight (screen : P → Int × Int) {cluster : List P} (hne : cluster ≠ []) :
    ∃ ob, clusterBounds screen cluster = some ob ∧ TightBox screen cluster ob := by
  cases cluster with
  | nil => exact absurd rfl hne
  | cons p cloud =>
    -- the loop comes to the first point again
    obtain ⟨hx, hy⟩ := @addPoints_extent _ screen [p]
      ⟨(screen p).1, (screen p).1, (screen p).2, (screen p).2⟩ (p::cloud)
      (IsExtent.singleton _) (IsExtent.singleton _)
    refine ⟨_, rfl, ?_, ?_⟩
    · rw [add_sub_cancel]
      exact hx.of_mem_iff (by simp)
    · rw [add_sub_cancel]
      exact hy.of_mem_iff (by simp)

theorem pushBounds_eq (m_clusters : List (List P)) :
    pushBounds screen m_clusters = m_clusters.filterMap (clusterBounds screen) := by
  have hacc : ∀ acc, m_clusters.foldl (fun m_objects cloud =>
      match clusterBounds screen cloud with
      | none => m_objects
      | some ob => m_objects ++ [ob]) acc = acc ++ m_clusters.filterMap (clusterBounds screen) := by
    induction m_clusters with
    | nil => simp
    | cons cloud m_clusters ih =>
      intro acc
      rw [List.foldl_cons, ih]
      cases hbounds : clusterBounds screen cloud <;> simp [hbounds]
  exact hacc []

theorem pushBounds_tight (screen : P → Int × Int) {m_clusters : List (List P)}
    (hne : ∀ cluster ∈ m_clusters, cluster ≠ []) :
    List.Forall₂ (TightBox screen) m_clusters (pushBounds screen m_clusters) := by
  rw [pushBounds_eq]
  induction m_clusters with
  | nil => exact List.Forall₂.nil
  | cons cluster m_clusters ih =>
    rw [List.forall_mem_cons] at hne
    obtain ⟨ob, hob, htight⟩ := clusterBounds_tight screen hne.1
    rw [List.filterMap_cons_some hob]
    exact List.Forall₂.cons htight (ih hne.2)

theorem mem_pushBounds {m_clusters : List (List P)} {ob : ObjectBounds}
    (h : ob ∈ pushBounds screen m_clusters) :
    ∃ cluster ∈ m_clusters, TightBox screen cluster ob := by
  rw [pushBounds_eq] at h
  obtain ⟨cluster, hcluster, hob⟩ := List.mem_filterMap.mp h
  have hne : cluster ≠ [] := by
    intro hnil
    rw [hnil] at hob
    exact Option.some_ne_none ob hob.symm
  obtain ⟨ob', hob', htight⟩ := clusterBounds_tight screen hne
  obtain rfl := Option.some.inj (hob.symm.trans hob')
  exact ⟨cluster, hcluster, htight⟩

end Boxes

section Passes

variable {pcl : Pcl P} {camera : Camera P}

theorem workerPass_isSome (camera : Camera P) (hpcl : pcl.Selects) (d : Detector P) :
    ∃ d', workerPass pcl camera d = some d' := by
  obtain ⟨m_seg, hseg⟩ := findClusters_isSome hpcl d.m_seg
  obtain ⟨_, hmodels, _⟩ := findClusters_cases hseg
  unfold workerPass
  rw [hseg, Option.bind_some]
  by_cases hfound : 0 < m_seg.m_clusters.length
  · have hprinted : (pushBounds (camera.convertPointToScreen m_seg.m_frameWidth
        m_seg.m_frameHeight) m_seg.m_clusters).length ≤ m_seg.m_models.length := by
      rw [pushBounds_eq, hmodels (List.ne_nil_of_length_pos hfound), List.length_map]
      exact List.length_filterMap_le _ _
    rw [if_pos hfound]
    dsimp only
    rw [if_pos hprinted]
    exact ⟨_, rfl⟩
  · rw [if_neg hfound]
    exact ⟨_, rfl⟩

/-- What a pass does. -/
theorem workerPass_cases {d d' : Detector P} (h : workerPass pcl camera d = some d') :
    findClusters pcl d.m_seg = some d'.m_seg ∧
      ((d'.m_seg.m_clusters ≠ [] ∧
          d'.m_objects = pushBounds
            (camera.convertPointToScreen d'.m_seg.m_frameWidth d'.m_seg.m_frameHeight)
            d'.m_seg.m_clusters) ∨
        (d'.m_seg.m_clusters = [] ∧ d'.m_objects = d.m_objects)) := by
  obtain ⟨m_seg, hseg, hrest⟩ := Option.bind_eq_some_iff.mp h
  by_cases hfound : 0 < m_seg.m_clusters.length
  · rw [if_pos hfound] at hrest
    dsimp only at hrest
    split_ifs at hrest
    obtain rfl := Option.some.inj hrest
    exact ⟨hseg, Or.inl ⟨List.ne_nil_of_length_pos hfound, rfl⟩⟩
  · rw [if_neg hfound] at hrest
    have hnone : m_seg.m_clusters = [] := List.eq_nil_of_length_eq_zero (by omega)
    obtain rfl := Option.some.inj hrest
    exact ⟨hseg, Or.inr ⟨hnone, rfl⟩⟩

/-- A pass that finds clusters describes them. -/
theorem describes_found (hpcl : pcl.NonemptyClusters) {s : Segmentation P} {d : Detector P}
    (hseg : findClusters pcl s = some d.m_seg) (hfound : d.m_seg.m_clusters ≠ [])
    (hobjects : d.m_objects = pushBounds
      (camera.convertPointToScreen d.m_seg.m_frameWidth d.m_seg.m_frameHeight)
      d.m_seg.m_clusters) : Describes pcl camera d := by
  obtain ⟨hclusters, hmodels, _⟩ := findClusters_cases hseg
  have hboxes := pushBounds_tight
    (camera.convertPointToScreen d.m_seg.m_frameWidth d.m_seg.m_frameHeight)
    (clustersOf_ne_nil hpcl hclusters)
  rw [← hobjects] at hboxes
  refine ⟨hboxes, ?_⟩
  intro i hi
  have hlt : i < d.m_seg.m_clusters.length := by
    rw [hboxes.length_eq]
    exact hi
  refine ⟨d.m_seg.m_clusters[i], List.getElem?_eq_getElem hlt, ?_⟩
  rw [hmodels hfound, List.getElem?_map, List.getElem?_eq_getElem hlt, Option.map_some]

theorem describes_none {d : Detector P} (h : d.m_seg.m_clusters = []) :
    Describes pcl camera d ↔ d.m_objects = [] := by
  constructor
  · intro hd
    have hboxes := hd.boxes
    rw [h] at hboxes
    exact List.forall₂_nil_left_iff.mp hboxes
  · intro hobjects
    constructor
    · rw [h, getObjectVector, hobjects]
      exact List.Forall₂.nil
    · intro i hi
      rw [getObjectVector, hobjects] at hi
      exact absurd hi (Nat.not_lt_zero i)

theorem describes_some {d : Detector P} (hd : Describes pcl camera d)
    (h : d.m_seg.m_clusters ≠ []) : d.m_objects ≠ [] := by
  intro hobjects
  have hboxes := hd.boxes
  rw [getObjectVector, hobjects] at hboxes
  exact h (List.forall₂_nil_right_iff.mp hboxes)

end Passes

section Runs

variable {pcl : Pcl P} {camera : Camera P}

/-- What the passes so far say about the objects. -/
structure Recorded (pcl : Pcl P) (camera : Camera P) (s : Session P) : Prop where
  judged : Along (fun earlier p => Describes pcl camera p.after ↔ NothingLeft pcl earlier p)
    s.passes
  objects : s.detector.m_objects = [] ↔ ∀ p ∈ s.passes, clustersOf pcl p.cloud = some []

theorem recorded_start : Recorded pcl camera Session.start := by
  constructor
  · exact along_nil _
  · simp [Session.start, Detector.start]

theorem recorded_detect {s : Session P} (h : Recorded pcl camera s) {frame : VideoFrame}
    {turns : Nat} {d : Detector P} (hd : detect camera frame turns s.detector = some d) :
    Recorded pcl camera { s with detector := d } := by
  have hobjects : d.m_objects = s.detector.m_objects := by
    unfold detect at hd
    dsimp only at hd
    split at hd
    · obtain rfl := Option.some.inj hd
      rfl
    · exact absurd hd (Option.some_ne_none _).symm
  constructor
  · exact h.judged
  · dsimp only
    rw [hobjects]
    exact h.objects

theorem recorded_pass (hpcl : pcl.NonemptyClusters) {s : Session P} (h : Recorded pcl camera s)
    {d : Detector P} (hd : workerPass pcl camera s.detector = some d) :
    Recorded pcl camera ⟨d, s.passes ++ [⟨s.detector.m_seg.m_cloud, d⟩]⟩ := by
  obtain ⟨hseg, hcases⟩ := workerPass_cases hd
  obtain ⟨hclusters, _⟩ := findClusters_cases hseg
  constructor
  · refine along_concat.mpr ⟨h.judged, ?_⟩
    dsimp only [NothingLeft]
    rw [hclusters]
    rcases hcases with ⟨hfound, hobjects⟩ | ⟨hnone, hkept⟩
    · constructor
      · intro _ hnil
        exact absurd (Option.some.inj hnil) hfound
      · intro _
        exact describes_found hpcl hseg hfound hobjects
    · rw [describes_none hnone, hkept, h.objects, hnone]
      exact ⟨fun hall _ => hall, fun hall => hall rfl⟩
  · dsimp only
    rw [List.forall_mem_append, List.forall_mem_singleton, hclusters]
    rcases hcases with ⟨hfound, hobjects⟩ | ⟨hnone, hkept⟩
    · constructor
      · intro hnone
        exact absurd hnone (describes_some (describes_found hpcl hseg hfound hobjects) hfound)
      · intro hnil
        exact absurd (Option.some.inj hnil.2) hfound
    · rw [hkept, h.objects, hnone]
      simp

theorem recorded_run (hpcl : pcl.NonemptyClusters) {calls : List Call} {s : Session P}
    (hrun : exec (call pcl camera) Session.start calls = some s) : Recorded pcl camera s := by
  refine exec_invariant_all ?_ calls Session.start s recorded_start hrun
  intro s c t hs hstep
  cases c with
  | detect frame turns =>
    rw [call] at hstep
    obtain ⟨d, hd, rfl⟩ := Option.map_eq_some_iff.mp hstep
    exact recorded_detect hs hd
  | pass =>
    rw [call] at hstep
    obtain ⟨d, hd, rfl⟩ := Option.map_eq_some_iff.mp hstep
    exact recorded_pass hpcl hs hd

/-- Every pass returns, and the objects are right after all of them if and only if no pass without
clusters comes after one with clusters. -/
theorem objects_described_iff (pcl : Pcl P) (hselects : pcl.Selects)
    (hclusters : pcl.NonemptyClusters) (camera : Camera P) (calls : List Call) (s : Session P)
    (hrun : exec (call pcl camera) Session.start calls = some s) :
    (∃ t, call pcl camera s .pass = some t) ∧
      ((∀ p ∈ s.passes, Describes pcl camera p.after) ↔ Along (NothingLeft pcl) s.passes) := by
  constructor
  · obtain ⟨d, hd⟩ := workerPass_isSome camera hselects s.detector
    rw [call, hd]
    exact ⟨_, rfl⟩
  · rw [← along_forall]
    exact along_congr (recorded_run hclusters hrun).judged

end Runs

section Example

structure PointXYZ where
  x : ℚ
  y : ℚ
  z : ℚ
  deriving DecidableEq

/-- `NUI_CAMERA_DEPTH_IMAGE_TO_SKELETON_MULTIPLIER_320x240` -/
def multiplier : ℚ := 3501 / 1000000

/-- The conversion to `int`. -/
def truncate (q : ℚ) : Int := if 0 ≤ q then ⌊q⌋ else ⌈q⌉

/-- The camera without rounding. -/
def exactCamera : Camera PointXYZ where
  point width height xi yi depth :=
    let z : ℚ := depth / 1000
    { x := (xi - width / 2) * multiplier * z
      y := -(yi - height / 2) * multiplier * z
      z := z }
  convertPointToScreen width height pt :=
    (truncate (pt.x / (multiplier * pt.z) + width / 2),
      truncate (height / 2 - pt.y / (multiplier * pt.z)))

def average (group : List PointXYZ) : PointXYZ where
  x := mean PointXYZ.x group
  y := mean PointXYZ.y group
  z := mean PointXYZ.z group

/-- The leaf of the voxel grid, of 5 mm, that a point lies in. -/
def leaf (p : PointXYZ) : Int × Int × Int :=
  (⌊p.x * 200⌋, ⌊p.y * 200⌋, ⌊p.z * 200⌋)

/-- Each point has the next one within the tolerance, of 2 cm. -/
def chained : List PointXYZ → Bool
  | p::q::cloud =>
      (p.x - q.x)^2 + (p.y - q.y)^2 + (p.z - q.z)^2 ≤ (2 / 100)^2 && chained (q::cloud)
  | _ => true

/-- PCL for points on a line, with the settings of `PclSegmentation`. Such points span no plane,
and no other model. -/
def linePcl : Pcl PointXYZ where
  voxelGrid cloud := (cloud.map leaf).dedup.map fun l => average (cloud.filter fun p => leaf p = l)
  passThrough cloud := cloud.filter fun p => 0 ≤ p.z ∧ p.z ≤ 2
  segment _ := []
  extract cloud :=
    if 100 ≤ cloud.length ∧ cloud.length ≤ 25000 ∧ chained cloud then [List.range cloud.length]
    else []
  weightNormalModel _ _ := 0

theorem linePcl_selects : linePcl.Selects := by
  constructor
  · exact fun _ _ h => List.mem_of_mem_filter h
  · exact fun _ _ h => absurd h List.not_mem_nil
  · intro cloud indices hindices i hi
    dsimp only [linePcl] at hindices
    split_ifs at hindices
    · rw [List.mem_singleton.mp hindices, List.mem_range] at hi
      exact hi
    · exact absurd hindices List.not_mem_nil

theorem linePcl_nonemptyClusters : linePcl.NonemptyClusters := by
  intro cloud indices hindices hnil
  dsimp only [linePcl] at hindices
  split_ifs at hindices with hsize
  · rw [hnil, List.mem_singleton, eq_comm, List.range_eq_nil] at hindices
    omega
  · exact List.not_mem_nil hindices

/-- The body of a depth frame with one row of 100 pixels. -/
def rowBody (low high : UInt8) : Block :=
  VideoFrame.encoded 100 1 2 (List.replicate 100 [low, high]).flatten

def rowFrame (low high : UInt8) : VideoFrame := VideoFrame.holding (rowBody low high) 212

/-- Every pixel at 1.5 m. -/
def lineFrame : VideoFrame := rowFrame 0xDC 0x05

/-- No pixel has a depth. -/
def blankFrame : VideoFrame := rowFrame 0 0

theorem rowFrames_accepted :
    VideoFrame.fromBuffer .lp64 (rowBody 0xDC 0x05) 212 = some lineFrame ∧
      VideoFrame.fromBuffer .lp64 (rowBody 0 0) 212 = some blankFrame := by
  decide +kernel

theorem line_found :
    (exec (call linePcl exactCamera) Session.start [.detect lineFrame 103, .pass]).map
      (fun s => s.passes.map fun p => p.after.m_objects) = some [[⟨0, 0, 99, 0⟩]] := by
  decide +kernel

theorem one_pass_described :
    ∃ s, exec (call linePcl exactCamera) Session.start [.detect lineFrame 103, .pass] = some s ∧
      (s.passes.map fun p => p.after.m_objects) = [[⟨0, 0, 99, 0⟩]] ∧
      ∀ p ∈ s.passes, Describes linePcl exactCamera p.after := by
  obtain ⟨s, hrun, hobjects⟩ := Option.map_eq_some_iff.mp line_found
  refine ⟨s, hrun, hobjects, ?_⟩
  apply (objects_described_iff linePcl linePcl_selects linePcl_nonemptyClusters exactCamera _ _
    hrun).2.mpr
  obtain ⟨p, hp, _⟩ := List.map_eq_singleton_iff.mp hobjects
  rw [hp]
  refine (along_concat (l := [])).mpr ⟨along_nil _, ?_⟩
  intro _ q hq
  exact absurd hq List.not_mem_nil

theorem line_left :
    (exec (call linePcl exactCamera) Session.start
      [.detect lineFrame 103, .pass, .detect blankFrame 103, .pass]).map (fun s =>
        (s.detector.m_seg.m_clusters, getObjectVector s.detector,
          s.passes.map fun p => (p.after.m_seg.m_clusters.length, p.after.m_objects))) =
      some ([], [⟨0, 0, 99, 0⟩], [(1, [⟨0, 0, 99, 0⟩]), (0, [⟨0, 0, 99, 0⟩])]) := by
  decide +kernel

/-- The objects of the first frame stay after a second frame without any. -/
theorem old_objects_stay :
    linePcl.Selects ∧ linePcl.NonemptyClusters ∧
      VideoFrame.fromBuffer .lp64 (rowBody 0xDC 0x05) 212 = some lineFrame ∧
      VideoFrame.fromBuffer .lp64 (rowBody 0 0) 212 = some blankFrame ∧
      lineFrame.isOK = true ∧ blankFrame.isOK = true ∧
      ∃ s, exec (call linePcl exactCamera) Session.start
          [.detect lineFrame 103, .pass, .detect blankFrame 103, .pass] = some s ∧
        s.detector.m_seg.m_clusters = [] ∧ getObjectVector s.detector = [⟨0, 0, 99, 0⟩] ∧
        ¬ ∀ p ∈ s.passes, Describes linePcl exactCamera p.after := by
  obtain ⟨s, hrun, hleft⟩ := Option.map_eq_some_iff.mp line_left
  obtain ⟨hclusters, hrest⟩ := Prod.mk.inj hleft
  obtain ⟨hobjects, hpasses⟩ := Prod.mk.inj hrest
  refine ⟨linePcl_selects, linePcl_nonemptyClusters, rowFrames_accepted.1, rowFrames_accepted.2,
    rfl, rfl, s, hrun, hclusters, hobjects, ?_⟩
  intro hall
  have hlast : (0, [⟨0, 0, 99, 0⟩]) ∈
      s.passes.map fun p => (p.after.m_seg.m_clusters.length, p.after.m_objects) := by
    rw [hpasses]
    exact List.mem_cons_of_mem _ (List.mem_singleton_self _)
  obtain ⟨p, hp, hlast⟩ := List.mem_map.mp hlast
  obtain ⟨hnone, hsome⟩ := Prod.mk.inj hlast
  rw [(describes_none (List.length_eq_zero_iff.mp hnone)).mp (hall p hp)] at hsome
  exact absurd hsome (by decide)

end Example

end KinectHelper.PclObjectDetector
