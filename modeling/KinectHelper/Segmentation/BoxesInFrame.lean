import Mathlib.Data.List.Dedup
import Mathlib.Tactic.FieldSimp
import Mathlib.Tactic.Linarith
import KinectHelper.Framework.Loop
import KinectHelper.Segmentation.ObjectVector

namespace KinectHelper.PclSegmentation

variable {P : Type*}

/-- The body of the pixel loops of `CreatePointCloud`, over `data` and the points; `none` is a read
that leaves the payload. -/
def exactPixel (frame : VideoFrame) (point : Nat → Nat → Nat → P) (yi xi : Nat)
    (s : Int × List P) : Option (Int × List P) :=
  (readDepth frame.getFrame s.1).map fun depth =>
    (s.1 + 1 * intChannels frame, if depth ≠ 0 then s.2 ++ [point xi yi depth] else s.2)

/-- `CreatePointCloud` with counters and limits that are not rounded. -/
def exactPointCloud (frame : VideoFrame) (point : Nat → Nat → Nat → P) : Option (List P) :=
  (forPixels frame.width.toNat frame.height.toNat (exactPixel frame point) (0, [])).map Prod.snd

/-- Every point comes from a pixel of the frame. -/
theorem exactPointCloud_mem {frame : VideoFrame} {point : Nat → Nat → Nat → P} {points : List P}
    (h : exactPointCloud frame point = some points) :
    ∀ p ∈ points, ∃ xi yi depth, xi < frame.width.toNat ∧ yi < frame.height.toNat ∧ 0 < depth ∧
      p = point xi yi depth := by
  obtain ⟨⟨data, points'⟩, hrun, rfl⟩ := Option.map_eq_some_iff.mp h
  refine forPixels_invariant (I := fun s : Int × List P => ∀ p ∈ s.2, ∃ xi yi depth,
    xi < frame.width.toNat ∧ yi < frame.height.toNat ∧ 0 < depth ∧ p = point xi yi depth)
    ?_ (fun p hp => absurd hp List.not_mem_nil) hrun
  intro y x hy hx s t hs hbody p hp
  obtain ⟨depth, _, rfl⟩ := Option.map_eq_some_iff.mp hbody
  dsimp only at hp
  split_ifs at hp with hdepth
  · rcases List.mem_append.mp hp with hold | hnew
    · exact hs p hold
    · exact ⟨x, y, depth, hx, hy, Nat.pos_of_ne_zero hdepth, List.mem_singleton.mp hnew⟩
  · exact hs p hp

/-- One turn of the loops as long as the counters count. -/
theorem exactPixel_step {frame : VideoFrame} {point : Nat → Nat → Nat → P} {y x : Nat}
    {s t : Int × List P} (hx : x < toFloat frame.width) (hcount : x < 2^floatBits)
    (h : exactPixel frame point y x s = some t) :
    cloudStep frame point (.pixels ⟨y, x, s.1, s.2⟩) = .pixels ⟨y, x + 1, t.1, t.2⟩ := by
  obtain ⟨depth, hread, rfl⟩ := Option.map_eq_some_iff.mp h
  simp only [cloudStep, if_pos hx, hread, addOne_of_lt (show 2 ≤ floatBits by decide) hcount]

theorem exactRow_visited {frame : VideoFrame} {point : Nat → Nat → Nat → P} {y : Nat}
    {s t : Int × List P} (hw : frame.width.toNat ≤ 2^floatBits)
    (h : forRange frame.width.toNat (fun x => exactPixel frame point y x) s = some t) :
    LeadsTo (cloudStep frame point) (.pixels ⟨y, 0, s.1, s.2⟩)
      (.pixels ⟨y, frame.width.toNat, t.1, t.2⟩) := by
  refine forRange_invariant (I := fun x u => LeadsTo (cloudStep frame point)
    (.pixels ⟨y, 0, s.1, s.2⟩) (.pixels ⟨y, x, u.1, u.2⟩)) ?_ (LeadsTo.refl _) h
  intro x hx u v hu hbody
  exact hu.next (exactPixel_step (by rwa [toFloat_exact hw]) (hx.trans_le hw) hbody)

/-- Up to `2^24` columns and rows, the exact loops are those of `CreatePointCloud`. -/
theorem exactPointCloud_visited {frame : VideoFrame} {point : Nat → Nat → Nat → P}
    {points : List P} (hw : frame.width.toNat ≤ 2^floatBits)
    (hh : frame.height.toNat ≤ 2^floatBits) (h : exactPointCloud frame point = some points) :
    Visits frame point (.done points) := by
  obtain ⟨⟨data, points'⟩, hrun, rfl⟩ := Option.map_eq_some_iff.mp h
  have hrows : ∃ x, Visits frame point (.rows ⟨frame.height.toNat, x, data, points'⟩) := by
    refine forRange_invariant (s := (0, [])) (I := fun y (u : Int × List P) => ∃ x,
      Visits frame point (.rows ⟨y, x, u.1, u.2⟩)) ?_ ⟨0, LeadsTo.refl _⟩ hrun
    intro y hy u v hu hrow
    obtain ⟨x, hu⟩ := hu
    have henter := hu.next (step_row frame point _ (by rwa [toFloat_exact hh]))
    have hend := (henter.trans (exactRow_visited hw hrow)).next
      (step_rowEnd frame point _ (by simp [toFloat_exact hw]))
    rw [addOne_of_lt (by decide) (hy.trans_le hh)] at hend
    exact ⟨_, hend⟩
  obtain ⟨x, hrows⟩ := hrows
  exact hrows.next (step_done frame point _ (by simp [toFloat_exact hh]))

end KinectHelper.PclSegmentation

namespace KinectHelper.PclObjectDetector

open PclSegmentation

variable {P : Type*}

/-- `Detect` with the exact loops. -/
def exactDetect (camera : Camera P) (frame : VideoFrame) (d : Detector P) : Option (Detector P) :=
  let width := frame.width.toNat
  let height := frame.height.toNat
  (exactPointCloud frame (camera.point width height)).map fun points =>
    { d with m_seg := d.m_seg.fill width height points }

/-- Up to `2^24` columns and rows, `Detect` does the same. -/
theorem exactDetect_detected {camera : Camera P} {frame : VideoFrame} {d filled : Detector P}
    (hw : frame.width.toNat ≤ 2^floatBits) (hh : frame.height.toNat ≤ 2^floatBits)
    (h : exactDetect camera frame d = some filled) :
    ∃ turns, detect camera frame turns d = some filled := by
  obtain ⟨points, hcloud, rfl⟩ := Option.map_eq_some_iff.mp h
  obtain ⟨turns, hdone⟩ := exactPointCloud_visited hw hh hcloud
  refine ⟨turns, ?_⟩
  rw [detect, toFloat_exact hw, toFloat_exact hh]
  dsimp only [createPointCloud]
  rw [hdone]

/-- `VoxelGrid` gives averages of groups of its points. -/
def Averages (pcl : Pcl PointXYZ) : Prop :=
  ∀ cloud, ∀ p ∈ pcl.voxelGrid cloud, ∃ group, group ≠ [] ∧ group ⊆ cloud ∧ p = average group

/-- The box lies in a frame of this size. -/
structure InFrame (width height : Nat) (ob : ObjectBounds) : Prop where
  x_nonneg : 0 ≤ ob.x
  width_nonneg : 0 ≤ ob.width
  right : ob.x + ob.width ≤ width - 1
  y_nonneg : 0 ≤ ob.y
  height_nonneg : 0 ≤ ob.height
  bottom : ob.y + ob.height ≤ height - 1

/-- The point is before the camera, and between the pixels of the frame. -/
structure InView (width height : Nat) (p : PointXYZ) : Prop where
  z_pos : 0 < p.z
  column : -(width / 2) ≤ p.x / (multiplier * p.z) ∧
    p.x / (multiplier * p.z) ≤ width - 1 - width / 2
  row : height / 2 - (height - 1) ≤ p.y / (multiplier * p.z) ∧
    p.y / (multiplier * p.z) ≤ height / 2

theorem multiplier_pos : 0 < multiplier := by
  unfold multiplier
  norm_num

theorem inView_pixel {width height xi yi depth : Nat} (hx : xi < width) (hy : yi < height)
    (hdepth : 0 < depth) : InView width height (exactCamera.point width height xi yi depth) := by
  have hz : (0 : ℚ) < depth / 1000 := by positivity
  have hscale := mul_pos multiplier_pos hz
  have hx0 : (0 : ℚ) ≤ xi := Nat.cast_nonneg xi
  have hy0 : (0 : ℚ) ≤ yi := Nat.cast_nonneg yi
  have hx1 : (xi : ℚ) + 1 ≤ width := by exact_mod_cast hx
  have hy1 : (yi : ℚ) + 1 ≤ height := by exact_mod_cast hy
  have hcancel : ∀ q : ℚ, q * multiplier * (depth / 1000) / (multiplier * (depth / 1000)) = q := by
    intro q
    rw [mul_assoc, mul_div_cancel_right₀ q hscale.ne']
  constructor
  · exact hz
  · dsimp only [exactCamera]
    rw [hcancel]
    constructor <;> linarith
  · dsimp only [exactCamera]
    rw [hcancel]
    constructor <;> linarith

theorem inView_average {width height : Nat} {group : List PointXYZ} (hne : group ≠ [])
    (h : ∀ p ∈ group, InView width height p) : InView width height (average group) := by
  have hscale : ∀ p ∈ group, 0 < multiplier * p.z :=
    fun p hp => mul_pos multiplier_pos (h p hp).z_pos
  constructor
  · exact mean_pos hne fun p hp => (h p hp).z_pos
  · dsimp only [average]
    rw [← mean_const_mul]
    exact mean_div_mean hne hscale fun p hp => (h p hp).column
  · dsimp only [average]
    rw [← mean_const_mul]
    exact mean_div_mean hne hscale fun p hp => (h p hp).row

theorem truncate_between {q : ℚ} {n : Int} (h0 : 0 ≤ q) (hn : q ≤ n) :
    0 ≤ truncate q ∧ truncate q ≤ n := by
  unfold truncate
  rw [if_pos h0]
  exact ⟨Int.floor_nonneg.mpr h0, Int.floor_le_iff.mpr (by linarith)⟩

/-- A point in view is drawn on a pixel of the frame. -/
theorem InView.screen {width height : Nat} {p : PointXYZ} (h : InView width height p) :
    (0 ≤ (exactCamera.convertPointToScreen width height p).1 ∧
      (exactCamera.convertPointToScreen width height p).1 ≤ width - 1) ∧
    0 ≤ (exactCamera.convertPointToScreen width height p).2 ∧
      (exactCamera.convertPointToScreen width height p).2 ≤ height - 1 := by
  obtain ⟨_, ⟨hx0, hx1⟩, ⟨hy0, hy1⟩⟩ := h
  constructor
  · apply truncate_between
    · linarith
    · push_cast
      linarith
  · apply truncate_between
    · linarith
    · push_cast
      linarith

theorem tightBox_inFrame {width height : Nat} {cluster : List PointXYZ} {ob : ObjectBounds}
    (hbox : TightBox (exactCamera.convertPointToScreen width height) cluster ob)
    (hview : ∀ p ∈ cluster, InView width height p) : InFrame width height ob := by
  obtain ⟨left, hleft, hx⟩ := List.mem_map.mp hbox.columns.lo_mem
  obtain ⟨right, hright, hxw⟩ := List.mem_map.mp hbox.columns.hi_mem
  obtain ⟨top, htop, hy⟩ := List.mem_map.mp hbox.rows.lo_mem
  obtain ⟨bottom, hbottom, hyh⟩ := List.mem_map.mp hbox.rows.hi_mem
  have hordered := hbox.columns.lo_le _ hbox.columns.hi_mem
  have hordered' := hbox.rows.lo_le _ hbox.rows.hi_mem
  constructor
  · rw [← hx]
    exact (hview left hleft).screen.1.1
  · omega
  · rw [← hxw]
    exact (hview right hright).screen.1.2
  · rw [← hy]
    exact (hview top htop).screen.2.1
  · omega
  · rw [← hyh]
    exact (hview bottom hbottom).screen.2.2

/-- The pass after a frame returns. It rebuilds the objects, and they lie in the frame, or it pushes
none. -/
theorem boxes_in_frame (pcl : Pcl PointXYZ) (hpcl : pcl.Selects) (hgrid : Averages pcl)
    (frame : VideoFrame) (d filled : Detector PointXYZ)
    (hfilled : exactDetect exactCamera frame d = some filled) :
    ∃ d', workerPass pcl exactCamera filled = some d' ∧
      ((d'.m_seg.m_clusters ≠ [] ∧
          ∀ ob ∈ d'.m_objects, InFrame frame.width.toNat frame.height.toNat ob) ∨
        (d'.m_seg.m_clusters = [] ∧ d'.m_objects = d.m_objects)) := by
  obtain ⟨points, hcloud, rfl⟩ := Option.map_eq_some_iff.mp hfilled
  obtain ⟨d', hpass⟩ := workerPass_isSome exactCamera hpcl
    { d with m_seg := d.m_seg.fill frame.width.toNat frame.height.toNat points }
  refine ⟨d', hpass, ?_⟩
  obtain ⟨hseg, hcases⟩ := workerPass_cases hpass
  obtain ⟨hclusters, _, hwidth, hheight, _⟩ := findClusters_cases hseg
  rcases hcases with ⟨hfound, hobjects⟩ | hnone
  · left
    refine ⟨hfound, ?_⟩
    intro ob hob
    rw [hobjects, hwidth, hheight] at hob
    obtain ⟨cluster, hcluster, hbox⟩ := mem_pushBounds hob
    apply tightBox_inFrame hbox
    intro p hp
    obtain ⟨group, hne, hgroup, rfl⟩ :=
      hgrid points p (clustersOf_subset hpcl hclusters cluster hcluster hp)
    apply inView_average hne
    intro q hq
    obtain ⟨xi, yi, depth, hx, hy, hdepth, rfl⟩ := exactPointCloud_mem hcloud q (hgroup hq)
    exact inView_pixel hx hy hdepth
  · exact Or.inr hnone

theorem linePcl_averages : Averages linePcl := by
  intro cloud p hp
  obtain ⟨l, hl, rfl⟩ := List.mem_map.mp hp
  obtain ⟨q, hq, rfl⟩ := List.mem_map.mp (List.mem_dedup.mp hl)
  refine ⟨_, ?_, List.filter_subset_self _, rfl⟩
  exact List.ne_nil_of_mem (List.mem_filter.mpr ⟨hq, decide_eq_true rfl⟩)

theorem lineFrame_size : lineFrame.width.toNat = 100 ∧ lineFrame.height.toNat = 1 := by
  decide +kernel

theorem lineFrame_filled : (exactDetect exactCamera lineFrame Detector.start).isSome = true := by
  decide +kernel

theorem line_pushed :
    (workerPass linePcl exactCamera
      ((exactDetect exactCamera lineFrame Detector.start).get lineFrame_filled)).map
      Detector.m_objects = some [⟨0, 0, 99, 0⟩] := by
  decide +kernel

theorem line_in_frame :
    VideoFrame.fromBuffer .lp64 (rowBody 0xDC 0x05) 212 = some lineFrame ∧
    ∃ d', workerPass linePcl exactCamera
        ((exactDetect exactCamera lineFrame Detector.start).get lineFrame_filled) = some d' ∧
      d'.m_objects = [⟨0, 0, 99, 0⟩] ∧
      ((d'.m_seg.m_clusters ≠ [] ∧ ∀ ob ∈ d'.m_objects, InFrame 100 1 ob) ∨
        (d'.m_seg.m_clusters = [] ∧ d'.m_objects = [])) := by
  obtain ⟨d', hpass, hobjects⟩ := Option.map_eq_some_iff.mp line_pushed
  obtain ⟨d'', hpass', hboxes⟩ := boxes_in_frame linePcl linePcl_selects linePcl_averages lineFrame
    Detector.start _ (Option.some_get lineFrame_filled).symm
  obtain rfl := Option.some.inj (hpass.symm.trans hpass')
  rw [lineFrame_size.1, lineFrame_size.2] at hboxes
  exact ⟨rowFrames_accepted.1, d', hpass, hobjects, hboxes⟩

end KinectHelper.PclObjectDetector
