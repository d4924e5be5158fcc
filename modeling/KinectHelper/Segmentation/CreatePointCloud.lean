import KinectHelper.Framework.Iterate
import KinectHelper.Framework.Rounding
import KinectHelper.KinectTypes.VideoFrame

namespace KinectHelper.PclSegmentation

/-- Significant bits of a `float`. -/
def floatBits : Nat := 24

/-- `(float)n`; the counters and limits of the pixel loops are whole numbers. -/
def toFloat (n : UInt32) : Nat := roundSig floatBits n.toNat

/-- `int nchannels = frame->GetChannelNum()`. -/
def intChannels (frame : VideoFrame) : Int := (frame.nchannels.toNat : Int).bmod (2^32)

/-- `*((unsigned short*)(data))`, `data` counted from the payload; `none` is a read that
leaves the payload. -/
def readDepth (payload : Block) (data : Int) : Option Nat :=
  if 0 ≤ data then loadHalf payload data.toNat else none

/-- The variables of the pixel loops. -/
structure PixelLoop (P : Type*) where
  yi : Nat
  xi : Nat
  data : Int
  points : List P

inductive CloudState (P : Type*) where
  /-- at the test of the loop over `yi` -/
  | rows (s : PixelLoop P)
  /-- at the test of the loop over `xi` -/
  | pixels (s : PixelLoop P)
  | done (points : List P)
  /-- stopped before a read outside the payload -/
  | outside

variable {P : Type*}

/-- One turn of `CreatePointCloud`. The float arithmetic that makes a point of `xi`, `yi`
and the depth is the parameter `point`. -/
def cloudStep (frame : VideoFrame) (point : Nat → Nat → Nat → P) : CloudState P → CloudState P
  | .rows s =>
      if s.yi < toFloat frame.height then .pixels { s with xi := 0 } else .done s.points
  | .pixels s =>
      if s.xi < toFloat frame.width then
        match readDepth frame.getFrame s.data with
        | none => .outside
        | some depth => .pixels {
            yi := s.yi
            xi := addOne floatBits s.xi
            data := s.data + 1 * intChannels frame
            points := if depth ≠ 0 then s.points ++ [point s.xi s.yi depth] else s.points }
      else .rows { s with yi := addOne floatBits s.yi }
  | .done points => .done points
  | .outside => .outside

/-- `CreatePointCloud` after `n` turns. -/
def createPointCloud (frame : VideoFrame) (point : Nat → Nat → Nat → P) (n : Nat) : CloudState P :=
  (cloudStep frame point)^[n] (.rows ⟨0, 0, 0, []⟩)

/-- The states `CreatePointCloud` goes through. -/
def Visits (frame : VideoFrame) (point : Nat → Nat → Nat → P) (s : CloudState P) : Prop :=
  LeadsTo (cloudStep frame point) (.rows ⟨0, 0, 0, []⟩) s

/-- The read at offset `d` stays inside the payload. -/
def Inside (frame : VideoFrame) (d : Int) : Prop := 0 ≤ d ∧ d + 2 ≤ frame.getFrame.length

/-- The depth read at offset `d`. -/
def depthAt (frame : VideoFrame) (d : Int) : Nat := (readDepth frame.getFrame d).getD 0

/-- The points one pixel contributes: one where the depth is not zero. -/
def pixelPoints (frame : VideoFrame) (point : Nat → Nat → Nat → P) (x y : Nat) (d : Int) : List P :=
  if depthAt frame d ≠ 0 then [point x y (depthAt frame d)] else []

theorem toFloat_cases (n : UInt32) :
    (n.toNat ≤ 2^24 ∧ toFloat n = n.toNat) ∨ (n.toNat = 2^24 + 1 ∧ toFloat n = 2^24) ∨
      (2^24 + 2 ≤ n.toNat ∧ 2^24 < toFloat n) := by
  have hdef : toFloat n = roundSig 24 n.toNat := rfl
  rcases Nat.lt_trichotomy n.toNat (2^24 + 1) with hlt | heq | hgt
  · left
    refine ⟨by omega, ?_⟩
    rcases Nat.eq_or_lt_of_le (show n.toNat ≤ 2^24 by omega) with heq | hlt'
    · rw [hdef, heq]
      exact roundSig_two_pow (by decide)
    · rw [hdef]
      exact roundSig_of_lt hlt'
  · right; left
    refine ⟨heq, ?_⟩
    rw [hdef, heq]
    exact roundSig_two_pow_succ (by decide)
  · right; right
    have hge := @roundSig_ge 24 n.toNat (by decide) hgt
    exact ⟨hgt, by rw [hdef]; omega⟩

theorem toFloat_pos {n : UInt32} (h : 0 < n.toNat) : 0 < toFloat n := by
  rcases toFloat_cases n with h' | h' | h' <;> omega

theorem toFloat_exact {n : UInt32} (h : n.toNat ≤ 2^floatBits) : toFloat n = n.toNat := by
  have hle : n.toNat ≤ 2^24 := h
  rcases toFloat_cases n with h' | h' | h' <;> omega

theorem intChannels_cases (frame : VideoFrame) :
    (frame.nchannels.toNat < 2^31 ∧ intChannels frame = frame.nchannels.toNat) ∨
      (2^31 ≤ frame.nchannels.toNat ∧ intChannels frame < 0) := by
  have hlt := frame.nchannels.toNat_lt
  unfold intChannels
  rw [Int.bmod_def]
  rcases Nat.lt_or_ge frame.nchannels.toNat (2^31) with h | h
  · left
    refine ⟨h, ?_⟩
    split_ifs <;> omega
  · right
    refine ⟨h, ?_⟩
    split_ifs <;> omega

theorem readDepth_isSome_iff (frame : VideoFrame) (d : Int) :
    (readDepth frame.getFrame d).isSome ↔ Inside frame d := by
  unfold readDepth Inside
  split_ifs with h
  · rw [loadHalf_isSome_iff]
    omega
  · simp [h]

theorem readDepth_inside {frame : VideoFrame} {d : Int} (h : Inside frame d) :
    readDepth frame.getFrame d = some (depthAt frame d) := by
  obtain ⟨v, hv⟩ := Option.isSome_iff_exists.mp ((readDepth_isSome_iff frame d).mpr h)
  simp [depthAt, hv]

theorem readDepth_not_inside {frame : VideoFrame} {d : Int} (h : ¬ Inside frame d) :
    readDepth frame.getFrame d = none := by
  rw [← Option.not_isSome_iff_eq_none, readDepth_isSome_iff]
  exact h

section Steps

variable (frame : VideoFrame) (point : Nat → Nat → Nat → P) (s : PixelLoop P)

theorem step_row (h : s.yi < toFloat frame.height) :
    cloudStep frame point (.rows s) = .pixels { s with xi := 0 } := if_pos h

theorem step_done (h : ¬ s.yi < toFloat frame.height) :
    cloudStep frame point (.rows s) = .done s.points := if_neg h

theorem step_rowEnd (h : ¬ s.xi < toFloat frame.width) :
    cloudStep frame point (.pixels s) = .rows { s with yi := addOne floatBits s.yi } := if_neg h

theorem step_pixel (h : s.xi < toFloat frame.width) (hin : Inside frame s.data) :
    cloudStep frame point (.pixels s) = .pixels {
      yi := s.yi
      xi := addOne floatBits s.xi
      data := s.data + intChannels frame
      points := s.points ++ pixelPoints frame point s.xi s.yi s.data } := by
  simp only [cloudStep, if_pos h, readDepth_inside hin, Int.one_mul, pixelPoints]
  split_ifs <;> simp

theorem step_outside (h : s.xi < toFloat frame.width) (hout : ¬ Inside frame s.data) :
    cloudStep frame point (.pixels s) = .outside := by
  simp only [cloudStep, if_pos h, readDepth_not_inside hout]

theorem createPointCloud_succ (n : Nat) : createPointCloud frame point (n + 1) =
    cloudStep frame point (createPointCloud frame point n) :=
  Function.iterate_succ_apply' _ _ _

end Steps

section Runs

variable (frame : VideoFrame) (point : Nat → Nat → Nat → P)

/-- The points of the first `m` pixels of a row that starts at offset `d`. -/
def rowPoints (y : Nat) (d : Int) (m : Nat) : List P :=
  (List.range m).flatMap fun i =>
    pixelPoints frame point (min i (2^floatBits)) y (d + i * intChannels frame)

/-- The points of the first `m` rows. -/
def rowsPoints (m : Nat) : List P :=
  (List.range m).flatMap fun j =>
    rowPoints frame point (min j (2^floatBits))
      ((j * toFloat frame.width : Nat) * intChannels frame) (toFloat frame.width)

/-- The inner loop reaches its `m`-th pixel. The counter sticks at `2^24`. -/
theorem pixels_run (y : Nat) (d : Int) (points : List P) (m : Nat)
    (h : ∀ i < m, min i (2^floatBits) < toFloat frame.width ∧
      Inside frame (d + i * intChannels frame)) :
    LeadsTo (cloudStep frame point) (.pixels ⟨y, 0, d, points⟩)
      (.pixels ⟨y, min m (2^floatBits), d + m * intChannels frame,
        points ++ rowPoints frame point y d m⟩) := by
  induction m with
  | zero => simpa [rowPoints] using LeadsTo.refl _
  | succ m ih =>
    have hprev := ih fun i hi => h i (Nat.lt_succ_of_lt hi)
    obtain ⟨hx, hin⟩ := h m (Nat.lt_succ_self m)
    refine hprev.next ?_
    rw [step_pixel frame point _ hx hin, addOne_min (by decide)]
    congr 2
    · push_cast
      ring
    · simp [rowPoints, List.range_succ]

theorem rows_run (hW : toFloat frame.width ≤ 2^floatBits) (m : Nat)
    (h : ∀ j < m, min j (2^floatBits) < toFloat frame.height ∧ ∀ i < toFloat frame.width,
      Inside frame ((j * toFloat frame.width + i : Nat) * intChannels frame)) :
    ∃ x, Visits frame point (.rows ⟨min m (2^floatBits), x,
      (m * toFloat frame.width : Nat) * intChannels frame, rowsPoints frame point m⟩) := by
  induction m with
  | zero => exact ⟨0, by simpa [Visits, rowsPoints] using LeadsTo.refl _⟩
  | succ m ih =>
    obtain ⟨x, hprev⟩ := ih fun j hj => h j (Nat.lt_succ_of_lt hj)
    obtain ⟨hy, hrow⟩ := h m (Nat.lt_succ_self m)
    have henter := hprev.next (step_row frame point _ hy)
    have hpixels := pixels_run frame point (min m (2^floatBits))
      ((m * toFloat frame.width : Nat) * intChannels frame) (rowsPoints frame point m)
      (toFloat frame.width) (by
        intro i hi
        refine ⟨lt_of_le_of_lt (Nat.min_le_left _ _) hi, ?_⟩
        have hin := hrow i hi
        push_cast at hin ⊢
        rwa [add_mul] at hin)
    rw [Nat.min_eq_left hW] at hpixels
    have hend := (henter.trans hpixels).next (step_rowEnd frame point _ (lt_irrefl _))
    refine ⟨toFloat frame.width, ?_⟩
    rw [addOne_min (by decide)] at hend
    have hd : ((m * toFloat frame.width : Nat) : Int) * intChannels frame +
        toFloat frame.width * intChannels frame =
        (((m + 1) * toFloat frame.width : Nat) : Int) * intChannels frame := by
      push_cast
      ring
    have hpoints : rowsPoints frame point m ++ rowPoints frame point (min m (2^floatBits))
        ((m * toFloat frame.width : Nat) * intChannels frame) (toFloat frame.width) =
        rowsPoints frame point (m + 1) := by
      simp [rowsPoints, List.range_succ]
    rw [hd, hpoints] at hend
    exact hend

theorem pixel_visited (hW : toFloat frame.width ≤ 2^floatBits) (j i : Nat)
    (hi : i < toFloat frame.width) (hj : min j (2^floatBits) < toFloat frame.height)
    (h : ∀ j' i', i' < toFloat frame.width →
      j' * toFloat frame.width + i' < j * toFloat frame.width + i →
      Inside frame ((j' * toFloat frame.width + i' : Nat) * intChannels frame)) :
    ∃ points, Visits frame point (.pixels ⟨min j (2^floatBits), i,
      (j * toFloat frame.width + i : Nat) * intChannels frame, points⟩) := by
  have hrows := rows_run frame point hW j (by
    intro j' hj'
    refine ⟨lt_of_le_of_lt (min_le_min_right _ hj'.le) hj, fun i' hi' => h j' i' hi' ?_⟩
    have := Nat.mul_le_mul_right (toFloat frame.width) (show j' + 1 ≤ j from hj')
    rw [Nat.add_mul, Nat.one_mul] at this
    omega)
  obtain ⟨x, hrows⟩ := hrows
  have henter := hrows.next (step_row frame point _ hj)
  have hpixels := pixels_run frame point (min j (2^floatBits))
    ((j * toFloat frame.width : Nat) * intChannels frame) (rowsPoints frame point j) i (by
      intro i' hi'
      refine ⟨lt_of_le_of_lt (Nat.min_le_left _ _) (hi'.trans hi), ?_⟩
      have hin := h j i' (hi'.trans hi) (by omega)
      push_cast at hin ⊢
      rwa [add_mul] at hin)
  rw [Nat.min_eq_left (show i ≤ 2^floatBits from (hi.trans_le hW).le)] at hpixels
  have hd : ((j * toFloat frame.width : Nat) : Int) * intChannels frame +
      i * intChannels frame =
      ((j * toFloat frame.width + i : Nat) : Int) * intChannels frame := by
    push_cast
    ring
  rw [hd] at hpixels
  exact ⟨_, henter.trans hpixels⟩

/-- With limits the counters can reach, and every read inside, the loops end. -/
theorem cloud_done (hW : toFloat frame.width ≤ 2^floatBits)
    (hH : toFloat frame.height ≤ 2^floatBits)
    (h : ∀ k < toFloat frame.height * toFloat frame.width,
      Inside frame (k * intChannels frame)) :
    Visits frame point (.done (rowsPoints frame point (toFloat frame.height))) := by
  obtain ⟨x, hrows⟩ := rows_run frame point hW (toFloat frame.height) (by
    intro j hj
    refine ⟨by omega, fun i hi => h _ ?_⟩
    calc j * toFloat frame.width + i < j * toFloat frame.width + toFloat frame.width := by omega
      _ = (j + 1) * toFloat frame.width := by ring
      _ ≤ toFloat frame.height * toFloat frame.width := Nat.mul_le_mul_right _ hj)
  refine hrows.next (step_done frame point _ ?_)
  simp only [Nat.min_eq_left hH, lt_irrefl, not_false_eq_true]

end Runs

end KinectHelper.PclSegmentation
