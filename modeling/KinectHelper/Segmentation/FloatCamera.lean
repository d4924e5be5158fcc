import KinectHelper.Framework.Float
import KinectHelper.Segmentation.BoxesInFrame

namespace KinectHelper.PclObjectDetector

open PclSegmentation

/-- An operation in `float`. Nothing here comes near the ends of the exponents. -/
def single (q : ℚ) : ℚ := roundFloat floatBits q

/-- `3.501e-3f` -/
def floatMultiplier : ℚ := single multiplier

def floatCamera : Camera PointXYZ where
  point width height xi yi depth :=
    let z := single (depth / 1000)
    { x := single (single (single (xi - single (width / 2)) * floatMultiplier) * z)
      y := single (single (-single (yi - single (height / 2)) * floatMultiplier) * z)
      z := z }
  convertPointToScreen width height pt :=
    (truncate (single (single (pt.x / single (floatMultiplier * pt.z)) + single (width / 2))),
      truncate (single (single (height / 2) - single (pt.y / single (floatMultiplier * pt.z)))))

/-- The pixel, or the one before it. -/
def AtOrBefore (n : Int) (i : Nat) : Prop := 0 ≤ n ∧ (n = i ∨ n = i - 1)

theorem single_half {m : ℤ} (hm : |m| < 2^floatBits) : single (m / 2) = m / 2 := by
  have hexact := roundFloat_exact (-1) hm
  rw [zpow_neg_one, ← div_eq_mul_inv] at hexact
  exact hexact

theorem single_center {n : ℕ} (hn : n ≤ 2^21) : single ((n : ℚ) / 2) = n / 2 := by
  have hm : |(n : ℤ)| < 2^floatBits := by
    rw [Nat.abs_cast]
    have : (n : ℤ) ≤ 2^21 := by exact_mod_cast hn
    exact lt_of_le_of_lt this (by decide)
  have hhalf := single_half hm
  rwa [Int.cast_natCast] at hhalf

theorem single_offset {n i : ℕ} (hn : n ≤ 2^21) (hi : i < n) :
    single ((i : ℚ) - n / 2) = i - n / 2 := by
  have hm : |2 * (i : ℤ) - n| < 2^floatBits := by
    have hbound : (2 : ℤ)^21 < 2^floatBits := by decide
    have hn' : (n : ℤ) ≤ 2^21 := by exact_mod_cast hn
    rw [abs_lt]
    constructor <;> omega
  have hhalf := single_half hm
  push_cast at hhalf
  rwa [sub_div, mul_div_cancel_left₀ _ two_ne_zero] at hhalf

theorem approx_single (q : ℚ) : Approx (1 / 2^24) q (single q) := approx_roundFloat floatBits q

theorem single_pos {q : ℚ} (hq : 0 < q) : 0 < single q := (approx_single q).pos (by norm_num) hq

theorem floatMultiplier_pos : 0 < floatMultiplier := single_pos multiplier_pos

/-- Scaled by the depth and back, an offset has five rounding errors at most. -/
theorem approx_scaled (t : ℚ) {z : ℚ} (hz : 0 < z) :
    Approx (5 / 2^24) t
      (single (single (single (t * floatMultiplier) * z) / single (floatMultiplier * z))) := by
  have hscale : 0 < floatMultiplier * z := mul_pos floatMultiplier_pos hz
  have hcoordinate := ((approx_single (t * floatMultiplier)).mul_right z).trans
    (approx_single (single (t * floatMultiplier) * z)) (by norm_num)
  have hquotient := hcoordinate.div (approx_single (floatMultiplier * z)) (by norm_num) hscale.ne'
  rw [mul_assoc, mul_div_cancel_right₀ t hscale.ne'] at hquotient
  refine (hquotient.trans (approx_single _) (by norm_num)).mono ?_
  norm_num

/-- The last rounding leaves the sum closer than half a pixel. -/
theorem near_pixel {n i : ℕ} {r : ℚ} (hn : n ≤ 2^21) (hi : i < n)
    (hr : |r - i| ≤ 5 / 2^24 * |(i : ℚ) - n / 2|) : |single r - i| < 1 / 2 := by
  have hn' : (n : ℚ) ≤ 2^21 := by exact_mod_cast hn
  have hi' : (i : ℚ) + 1 ≤ n := by exact_mod_cast hi
  have hi0 : (0 : ℚ) ≤ i := Nat.cast_nonneg i
  have hoffset : |(i : ℚ) - n / 2| ≤ 2^20 := by
    rw [abs_le]
    constructor <;> linarith
  have hrough : |r - i| ≤ 5 / 2^4 := by
    calc |r - i| ≤ 5 / 2^24 * |(i : ℚ) - n / 2| := hr
      _ ≤ 5 / 2^24 * 2^20 := mul_le_mul_of_nonneg_left hoffset (by norm_num)
      _ = 5 / 2^4 := by norm_num
  have hsize : |r| ≤ 2^21 := by
    have := abs_le.mp hrough
    rw [abs_le]
    constructor <;> linarith
  have hround : |single r - r| ≤ 1 / 2^24 * |r| := approx_single r
  calc |single r - i| ≤ |single r - r| + |r - i| := abs_sub_le _ _ _
    _ ≤ 1 / 2^24 * 2^21 + 5 / 2^4 := by
      apply add_le_add (le_trans hround _) hrough
      exact mul_le_mul_of_nonneg_left hsize (by norm_num)
    _ < 1 / 2 := by norm_num

theorem near_column {n i : ℕ} {q : ℚ} (hn : n ≤ 2^21) (hi : i < n)
    (hq : Approx (5 / 2^24) ((i : ℚ) - n / 2) q) : |single (q + n / 2) - i| < 1 / 2 := by
  have hshift : q + n / 2 - i = q - (i - n / 2) := by ring
  apply near_pixel hn hi
  rw [hshift]
  exact hq

theorem near_row {n i : ℕ} {q : ℚ} (hn : n ≤ 2^21) (hi : i < n)
    (hq : Approx (5 / 2^24) (-((i : ℚ) - n / 2)) q) : |single (n / 2 - q) - i| < 1 / 2 := by
  have hshift : (n : ℚ) / 2 - q - i = -(q - -(i - n / 2)) := by ring
  apply near_pixel hn hi
  rw [hshift, abs_neg, ← abs_neg ((i : ℚ) - n / 2)]
  exact hq

/-- The conversion to `int` loses a column or row when the sum is below it. -/
theorem truncate_near {q : ℚ} {i : ℕ} (h : |q - i| < 1 / 2) : AtOrBefore (truncate q) i := by
  obtain ⟨hlow, hhigh⟩ := abs_lt.mp h
  unfold AtOrBefore truncate
  split_ifs with hq
  · have hle : ⌊q⌋ ≤ (i : ℤ) := by
      rw [← Int.lt_add_one_iff, Int.floor_lt]
      push_cast
      linarith
    have hge : (i : ℤ) - 1 ≤ ⌊q⌋ := by
      rw [Int.le_floor]
      push_cast
      linarith
    have hnonneg := Int.floor_nonneg.mpr hq
    omega
  · -- only before the first pixel
    have hi : i = 0 := by
      by_contra hne
      have hone : (1 : ℚ) ≤ i := by exact_mod_cast Nat.one_le_iff_ne_zero.mpr hne
      linarith
    rw [hi] at hlow ⊢
    have hceil : ⌈q⌉ = 0 := by
      rw [Int.ceil_eq_zero_iff]
      push_cast at hlow
      constructor <;> linarith
    rw [hceil]
    simp

/-- Each pixel comes back, or the one before it. -/
theorem floatCamera_back {width height xi yi depth : ℕ} (hw : width ≤ 2^21) (hh : height ≤ 2^21)
    (hx : xi < width) (hy : yi < height) (hdepth : 0 < depth) :
    AtOrBefore (floatCamera.convertPointToScreen width height
        (floatCamera.point width height xi yi depth)).1 xi ∧
      AtOrBefore (floatCamera.convertPointToScreen width height
        (floatCamera.point width height xi yi depth)).2 yi := by
  have hz : 0 < single ((depth : ℚ) / 1000) := single_pos (by positivity)
  dsimp only [floatCamera]
  rw [single_center hw, single_center hh, single_offset hw hx, single_offset hh hy]
  constructor
  · exact truncate_near (near_column hw hx (approx_scaled _ hz))
  · exact truncate_near (near_row hh hy (approx_scaled _ hz))

/-- The points come from pixels with a depth. -/
def FromPixels (frame : VideoFrame) (point : Nat → Nat → Nat → PointXYZ) :
    CloudState PointXYZ → Prop
  | .rows s => ∀ p ∈ s.points, ∃ xi yi depth, xi < toFloat frame.width ∧
      yi < toFloat frame.height ∧ 0 < depth ∧ p = point xi yi depth
  | .pixels s => s.yi < toFloat frame.height ∧
      ∀ p ∈ s.points, ∃ xi yi depth, xi < toFloat frame.width ∧
        yi < toFloat frame.height ∧ 0 < depth ∧ p = point xi yi depth
  | .done points => ∀ p ∈ points, ∃ xi yi depth, xi < toFloat frame.width ∧
      yi < toFloat frame.height ∧ 0 < depth ∧ p = point xi yi depth
  | .outside => True

theorem fromPixels_step {frame : VideoFrame} {point : Nat → Nat → Nat → PointXYZ}
    {s : CloudState PointXYZ} (h : FromPixels frame point s) :
    FromPixels frame point (cloudStep frame point s) := by
  cases s with
  | rows s =>
    rw [cloudStep]
    split_ifs with hrow
    · exact ⟨hrow, h⟩
    · exact h
  | pixels s =>
    obtain ⟨hrow, hpoints⟩ := h
    rw [cloudStep]
    split_ifs with hpixel
    · cases hread : readDepth frame.getFrame s.data with
      | none => trivial
      | some depth =>
        refine ⟨hrow, ?_⟩
        dsimp only
        split_ifs with hdepth
        · intro p hp
          rcases List.mem_append.mp hp with hold | hnew
          · exact hpoints p hold
          · exact ⟨s.xi, s.yi, depth, hpixel, hrow, Nat.pos_of_ne_zero hdepth,
              List.mem_singleton.mp hnew⟩
        · exact hpoints
    · exact hpoints
  | done points => exact h
  | outside => trivial

/-- However the depths are: each point of the cloud comes from a pixel of the frame, and the worker
finds it at that pixel, or one column before it, or one row, and never outside of the frame. -/
theorem float_points_on_screen (frame : VideoFrame) (turns : Nat) (d filled : Detector PointXYZ)
    (hw : frame.width.toNat ≤ 2^21) (hh : frame.height.toNat ≤ 2^21)
    (hfilled : detect floatCamera frame turns d = some filled) :
    ∀ p ∈ filled.m_seg.m_cloud, ∃ xi yi depth, xi < frame.width.toNat ∧
      yi < frame.height.toNat ∧ 0 < depth ∧
      p = floatCamera.point frame.width.toNat frame.height.toNat xi yi depth ∧
      AtOrBefore (floatCamera.convertPointToScreen filled.m_seg.m_frameWidth
        filled.m_seg.m_frameHeight p).1 xi ∧
      AtOrBefore (floatCamera.convertPointToScreen filled.m_seg.m_frameWidth
        filled.m_seg.m_frameHeight p).2 yi := by
  have hwidth : toFloat frame.width = frame.width.toNat := toFloat_exact (hw.trans (by decide))
  have hheight : toFloat frame.height = frame.height.toNat := toFloat_exact (hh.trans (by decide))
  unfold detect at hfilled
  rw [hwidth, hheight] at hfilled
  dsimp only at hfilled
  split at hfilled
  next points hdone =>
    obtain rfl := Option.some.inj hfilled
    intro p hp
    have hstart : FromPixels frame (floatCamera.point frame.width.toNat frame.height.toNat)
        (.rows ⟨0, 0, 0, []⟩) := fun q hq => absurd hq List.not_mem_nil
    have hfrom := LeadsTo.invariant (I := FromPixels frame _) (fun _ => fromPixels_step) hstart
      ⟨turns, hdone⟩
    obtain ⟨xi, yi, depth, hx, hy, hdepth, rfl⟩ := hfrom p hp
    rw [hwidth] at hx
    rw [hheight] at hy
    obtain ⟨hcolumn, hrow⟩ := floatCamera_back hw hh hx hy hdepth
    exact ⟨xi, yi, depth, hx, hy, hdepth, rfl, hcolumn, hrow⟩
  next => exact absurd hfilled (Option.some_ne_none _).symm

/-- One row of eight pixels, the second at one millimetre. -/
def nearPixel : VideoFrame :=
  VideoFrame.holding (VideoFrame.encoded 8 1 2 ([0, 0, 1, 0] ++ zeros 12)) 28

theorem nearPixel_filled :
    (detect floatCamera nearPixel 11 Detector.start).map (fun d =>
      (d.m_seg.m_cloud, d.m_seg.m_frameWidth, d.m_seg.m_frameHeight)) =
      some ([floatCamera.point 8 1 1 0 1], 8, 1) := by
  decide +kernel

/-- The second pixel is found at the first. -/
theorem second_pixel_found_first :
    ∃ filled, detect floatCamera nearPixel 11 Detector.start = some filled ∧
      filled.m_seg.m_cloud = [floatCamera.point 8 1 1 0 1] ∧
      floatCamera.convertPointToScreen 8 1 (floatCamera.point 8 1 1 0 1) = (0, 0) ∧
      ∀ p ∈ filled.m_seg.m_cloud, ∃ xi yi depth, xi < 8 ∧ yi < 1 ∧ 0 < depth ∧
        p = floatCamera.point 8 1 xi yi depth ∧
        AtOrBefore (floatCamera.convertPointToScreen filled.m_seg.m_frameWidth
          filled.m_seg.m_frameHeight p).1 xi ∧
        AtOrBefore (floatCamera.convertPointToScreen filled.m_seg.m_frameWidth
          filled.m_seg.m_frameHeight p).2 yi := by
  obtain ⟨filled, hfilled, hcloud⟩ := Option.map_eq_some_iff.mp nearPixel_filled
  exact ⟨filled, hfilled, (Prod.mk.inj hcloud).1, by decide +kernel,
    float_points_on_screen nearPixel 11 Detector.start filled (by decide) (by decide) hfilled⟩

end KinectHelper.PclObjectDetector
