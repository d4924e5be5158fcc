import KinectHelper.KinectTypes.Codec
import KinectHelper.Segmentation.PayloadReads

namespace KinectHelper.PclSegmentation

/-- The pixel whose body the next turn of `CreatePointCloud` runs. -/
def bodyPixel {P : Type*} (frame : VideoFrame) : CloudState P → List (Nat × Nat)
  | .pixels s => if s.xi < toFloat frame.width then [(s.xi, s.yi)] else []
  | .rows _ | .done _ | .outside => []

/-- The pixels whose bodies the first `n` turns have run, in order. -/
def bodiesRun {P : Type*} (frame : VideoFrame) (point : Nat → Nat → Nat → P) (n : Nat) :
    List (Nat × Nat) :=
  (List.range n).flatMap fun k => bodyPixel frame (createPointCloud frame point k)

/-- The first `n` pixels of row `y`. -/
def rowPixels (y n : Nat) : List (Nat × Nat) := (List.range n).map fun x => (x, y)

def rowMajor (w h : Nat) : List (Nat × Nat) := (List.range h).flatMap fun y => rowPixels y w

/-- `CreatePointCloud` ends, and its body has run once for each pixel, row by row. -/
def VisitsOnce {P : Type*} (frame : VideoFrame) (point : Nat → Nat → Nat → P) : Prop :=
  ∃ n points, createPointCloud frame point n = .done points ∧
    bodiesRun frame point n = rowMajor frame.width.toNat frame.height.toNat

/-- The counters of the loops alone, and the pixels `(xi, yi)` whose body has run. -/
structure Counters where
  yi : Nat
  xi : Nat
  visited : List (Nat × Nat)

inductive LoopState where
  /-- at the test of the loop over `yi` -/
  | rows (s : Counters)
  /-- at the test of the loop over `xi` -/
  | pixels (s : Counters)
  | done (visited : List (Nat × Nat))

/-- One turn of the loops without the reads; no depth changes where they go. -/
def loopStep (frame : VideoFrame) : LoopState → LoopState
  | .rows s => if s.yi < toFloat frame.height then .pixels { s with xi := 0 } else .done s.visited
  | .pixels s =>
      if s.xi < toFloat frame.width then .pixels { s with
        xi := addOne floatBits s.xi
        visited := s.visited ++ [(s.xi, s.yi)] }
      else .rows { s with yi := addOne floatBits s.yi }
  | .done visited => .done visited

def loopStart : LoopState := .rows ⟨0, 0, []⟩

theorem rowMajor_length (w h : Nat) : (rowMajor w h).length = w * h := by
  simp [rowMajor, rowPixels, List.length_flatMap, Nat.mul_comm]

theorem rowMajor_succ (w h : Nat) : rowMajor w (h + 1) = rowMajor w h ++ rowPixels h w := by
  simp [rowMajor, List.range_succ]

theorem rowPixels_succ (y n : Nat) : rowPixels y (n + 1) = rowPixels y n ++ [(n, y)] := by
  simp [rowPixels, List.range_succ]

/-- The same control point with the same counters. -/
inductive Follows {P : Type*} (visited : List (Nat × Nat)) : CloudState P → LoopState → Prop
  | rows (s : PixelLoop P) : Follows visited (.rows s) (.rows ⟨s.yi, s.xi, visited⟩)
  | pixels (s : PixelLoop P) : Follows visited (.pixels s) (.pixels ⟨s.yi, s.xi, visited⟩)
  | done (points : List P) : Follows visited (.done points) (.done visited)

section Follows

variable {P : Type*} {frame : VideoFrame} {point : Nat → Nat → Nat → P}

theorem follows_step {s : CloudState P} {c : LoopState} {visited : List (Nat × Nat)}
    (h : Follows visited s c) :
    cloudStep frame point s = .outside ∨
      Follows (visited ++ bodyPixel frame s) (cloudStep frame point s) (loopStep frame c) := by
  cases h with
  | rows s =>
    right
    rw [bodyPixel, List.append_nil]
    by_cases hy : s.yi < toFloat frame.height
    · rw [step_row frame point s hy, loopStep, if_pos hy]
      exact Follows.pixels { s with xi := 0 }
    · rw [step_done frame point s hy, loopStep, if_neg hy]
      exact Follows.done s.points
  | pixels s =>
    by_cases hx : s.xi < toFloat frame.width
    · by_cases hin : Inside frame s.data
      · right
        rw [step_pixel frame point s hx hin, loopStep, if_pos hx, bodyPixel, if_pos hx]
        exact Follows.pixels _
      · exact Or.inl (step_outside frame point s hx hin)
    · right
      rw [step_rowEnd frame point s hx, loopStep, if_neg hx, bodyPixel, if_neg hx,
        List.append_nil]
      exact Follows.rows _
  | done points =>
    right
    rw [bodyPixel, List.append_nil]
    exact Follows.done points

theorem bodiesRun_succ (n : Nat) : bodiesRun frame point (n + 1) =
    bodiesRun frame point n ++ bodyPixel frame (createPointCloud frame point n) := by
  simp [bodiesRun, List.range_succ]

theorem createPointCloud_follows (n : Nat) : createPointCloud frame point n = .outside ∨
    Follows (bodiesRun frame point n) (createPointCloud frame point n)
      ((loopStep frame)^[n] loopStart) := by
  induction n with
  | zero => exact Or.inr (Follows.rows ⟨0, 0, 0, []⟩)
  | succ n ih =>
    rw [createPointCloud_succ, bodiesRun_succ, Function.iterate_succ_apply']
    rcases ih with hout | hfollows
    · left
      rw [hout]
      rfl
    · exact follows_step hfollows

end Follows

section Loops

variable {frame : VideoFrame}

theorem pixels_visited (hW : toFloat frame.width ≤ 2^floatBits) (y : Nat)
    (visited : List (Nat × Nat)) (n : Nat) (hn : n ≤ toFloat frame.width) :
    LeadsTo (loopStep frame) (.pixels ⟨y, 0, visited⟩)
      (.pixels ⟨y, n, visited ++ rowPixels y n⟩) := by
  induction n with
  | zero => simpa [rowPixels] using LeadsTo.refl _
  | succ n ih =>
    have hprev := ih (Nat.le_of_succ_le hn)
    have hstep : loopStep frame (.pixels ⟨y, n, visited ++ rowPixels y n⟩) =
        .pixels ⟨y, addOne floatBits n, visited ++ rowPixels y n ++ [(n, y)]⟩ := if_pos hn
    rw [addOne_of_lt (by decide) (lt_of_lt_of_le hn hW), List.append_assoc,
      ← rowPixels_succ] at hstep
    exact hprev.next hstep

theorem row_visited (hW : toFloat frame.width ≤ 2^floatBits)
    (hH : toFloat frame.height ≤ 2^floatBits) (y x : Nat) (visited : List (Nat × Nat))
    (hy : y < toFloat frame.height) :
    LeadsTo (loopStep frame) (.rows ⟨y, x, visited⟩)
      (.rows ⟨y + 1, toFloat frame.width, visited ++ rowPixels y (toFloat frame.width)⟩) := by
  have henter : loopStep frame (.rows ⟨y, x, visited⟩) = .pixels ⟨y, 0, visited⟩ := if_pos hy
  have hpixels := pixels_visited hW y visited (toFloat frame.width) le_rfl
  have hleave : loopStep frame
      (.pixels ⟨y, toFloat frame.width, visited ++ rowPixels y (toFloat frame.width)⟩) =
      .rows ⟨addOne floatBits y, toFloat frame.width,
        visited ++ rowPixels y (toFloat frame.width)⟩ := if_neg (lt_irrefl _)
  rw [addOne_of_lt (by decide) (lt_of_lt_of_le hy hH)] at hleave
  exact (((LeadsTo.refl _).next henter).trans hpixels).next hleave

theorem loops_done (hW : toFloat frame.width ≤ 2^floatBits)
    (hH : toFloat frame.height ≤ 2^floatBits) :
    LeadsTo (loopStep frame) loopStart
      (.done (rowMajor (toFloat frame.width) (toFloat frame.height))) := by
  have hrows : ∀ m ≤ toFloat frame.height, ∃ x, LeadsTo (loopStep frame) loopStart
      (.rows ⟨m, x, rowMajor (toFloat frame.width) m⟩) := by
    intro m
    induction m with
    | zero => exact fun _ => ⟨0, LeadsTo.refl _⟩
    | succ m ih =>
      intro hm
      obtain ⟨x, hx⟩ := ih (Nat.le_of_succ_le hm)
      have hrow := row_visited hW hH m x (rowMajor (toFloat frame.width) m) hm
      rw [← rowMajor_succ] at hrow
      exact ⟨toFloat frame.width, hx.trans hrow⟩
  obtain ⟨x, hx⟩ := hrows _ le_rfl
  exact hx.next (if_neg (lt_irrefl _))

/-- In the first row, with a counter that has not passed `2^24`. -/
def InFirstRow : LoopState → Prop
  | .rows s => s.yi = 0
  | .pixels s => s.xi ≤ 2^floatBits
  | .done _ => False

theorem endless_row (hW : 2^floatBits < toFloat frame.width) (hH : 0 < toFloat frame.height)
    (visited : List (Nat × Nat)) : ¬ LeadsTo (loopStep frame) loopStart (.done visited) := by
  intro h
  have hstep : ∀ s, InFirstRow s → InFirstRow (loopStep frame s) := by
    intro s hs
    cases s with
    | rows s =>
      rw [InFirstRow] at hs
      rw [loopStep, hs, if_pos hH]
      exact Nat.zero_le _
    | pixels s =>
      rw [loopStep, if_pos (lt_of_le_of_lt hs hW)]
      exact addOne_le (by decide) hs
    | done visited => exact hs
  have hend := h.invariant hstep (show InFirstRow loopStart from rfl)
  exact hend

/-- In a row whose counter has not passed `2^24`. -/
def InSomeRow : LoopState → Prop
  | .rows s | .pixels s => s.yi ≤ 2^floatBits
  | .done _ => False

theorem endless_rows (hH : 2^floatBits < toFloat frame.height) (visited : List (Nat × Nat)) :
    ¬ LeadsTo (loopStep frame) loopStart (.done visited) := by
  intro h
  have hstep : ∀ s, InSomeRow s → InSomeRow (loopStep frame s) := by
    intro s hs
    cases s with
    | rows s =>
      rw [loopStep, if_pos (lt_of_le_of_lt hs hH)]
      exact hs
    | pixels s =>
      by_cases hx : s.xi < toFloat frame.width
      · rw [loopStep, if_pos hx]
        exact hs
      · rw [loopStep, if_neg hx]
        exact addOne_le (by decide) hs
    | done visited => exact hs
  have hend := h.invariant hstep (show InSomeRow loopStart from Nat.zero_le _)
  exact hend

/-- A limit that the counters reach is rounded down if at all. -/
theorem toFloat_limit {n : UInt32} (h : toFloat n ≤ 2^floatBits) :
    toFloat n ≤ n.toNat ∧ (2^24 < n.toNat → toFloat n < n.toNat) := by
  have h24 : toFloat n ≤ 2^24 := h
  rcases toFloat_cases n with hn | hn | hn <;> omega

theorem visits_iff (hw : 0 < frame.width.toNat) (hh : 0 < frame.height.toNat) :
    LeadsTo (loopStep frame) loopStart
        (.done (rowMajor frame.width.toNat frame.height.toNat)) ↔
      frame.width.toNat ≤ 2^24 ∧ frame.height.toNat ≤ 2^24 := by
  constructor
  · intro h
    have hW : toFloat frame.width ≤ 2^floatBits := by
      by_contra hgt
      exact endless_row (not_le.mp hgt) (toFloat_pos hh) _ h
    have hH : toFloat frame.height ≤ 2^floatBits := by
      by_contra hgt
      exact endless_rows (not_le.mp hgt) _ h
    have hsame := @LeadsTo.halted_unique _ (loopStep frame) _ _ _ rfl rfl h (loops_done hW hH)
    have hlength := congrArg List.length (LoopState.done.inj hsame)
    rw [rowMajor_length, rowMajor_length] at hlength
    obtain ⟨hWle, hw24⟩ := toFloat_limit hW
    obtain ⟨hHle, hh24⟩ := toFloat_limit hH
    constructor
    · by_contra hgt
      exact absurd hlength (Nat.mul_lt_mul_of_lt_of_le (hw24 (not_le.mp hgt)) hHle hh).ne'
    · by_contra hgt
      exact absurd hlength (Nat.mul_lt_mul_of_le_of_lt hWle (hh24 (not_le.mp hgt)) hw).ne'
  · intro ⟨hw24, hh24⟩
    have hW := toFloat_exact hw24
    have hH := toFloat_exact hh24
    have hdone := loops_done (hW.trans_le hw24) (hH.trans_le hh24)
    rwa [hW, hH] at hdone

end Loops

/-- The loops of `CreatePointCloud` end as those without the reads, if no read leaves the
payload. -/
theorem visitsOnce_iff {P : Type*} (frame : VideoFrame) (point : Nat → Nat → Nat → P) :
    VisitsOnce frame point ↔
      LeadsTo (loopStep frame) loopStart
        (.done (rowMajor frame.width.toNat frame.height.toNat)) ∧ ReadsInside frame point := by
  constructor
  · intro ⟨n, points, hdone, hbodies⟩
    have hin : ReadsInside frame point := readsInside_of_done ⟨n, hdone⟩
    refine ⟨⟨n, ?_⟩, hin⟩
    rcases @createPointCloud_follows P frame point n with hout | hfollows
    · exact absurd hout (not_outside hin n)
    · rw [hdone, hbodies] at hfollows
      generalize (loopStep frame)^[n] loopStart = c at hfollows
      cases hfollows
      rfl
  · intro ⟨⟨n, hloops⟩, hin⟩
    rcases @createPointCloud_follows P frame point n with hout | hfollows
    · exact absurd hout (not_outside hin n)
    · rw [hloops] at hfollows
      generalize hcloud : createPointCloud frame point n = s at hfollows
      generalize hbodies : bodiesRun frame point n = visited at hfollows
      cases hfollows with
      | done points => exact ⟨n, points, hcloud, hbodies⟩

/-- For an accepted frame `CreatePointCloud` ends with one visit to each of its pixels, row by row,
if and only if no dimension is above `2^24`, the size does not wrap and a pixel has two bytes. -/
theorem visits_accepted_iff {P : Type*} (abi : Abi) (buffer : Block) (bufsize : UInt32)
    (frame : VideoFrame) (point : Nat → Nat → Nat → P)
    (hframe : VideoFrame.fromBuffer abi buffer bufsize = some frame) (hok : frame.isOK = true) :
    VisitsOnce frame point ↔
      frame.width.toNat ≤ 2^24 ∧ frame.height.toNat ≤ 2^24 ∧ frame.pixelBytes + 12 < 2^32 ∧
        2 ≤ frame.nchannels.toNat := by
  obtain ⟨hw, hh, _⟩ := VideoFrame.accepted_pos hframe hok
  rw [visitsOnce_iff, visits_iff hw hh, readsInside_iff abi buffer bufsize frame point hframe hok]
  constructor
  · intro ⟨⟨hw24, hh24⟩, hfits, _, _, hchannels⟩
    refine ⟨hw24, hh24, hfits, ?_⟩
    rcases hchannels with h | h | h <;> omega
  · intro ⟨hw24, hh24, hfits, hchannels⟩
    exact ⟨⟨hw24, hh24⟩, hfits, hw24.trans (Nat.le_succ _), hh24.trans (Nat.le_succ _),
      Or.inl hchannels⟩

theorem four_by_two_visited :
    VisitsOnce (VideoFrame.holding (VideoFrame.encoded 4 2 3 (zeros 24)) 36)
      fun x y depth => (x, y, depth) :=
  (visits_accepted_iff .lp64 (VideoFrame.encoded 4 2 3 (zeros 24)) 36 _ _ (by decide) rfl).mpr
    (by decide)

/-- A picture with one row. -/
def wideImage (width : UInt32) (hfits : width.toNat + 12 < 2^32) : Image where
  width := width
  height := 1
  nchannels := 1
  payload := zeros width.toNat
  payload_length := by simp
  fits := by simpa using hfits

theorem wideImage_accepted (width : UInt32) (hfits : width.toNat + 12 < 2^32)
    (hwide : 20 < width.toNat) :
    VideoFrame.fromBuffer .lp64 (wideImage width hfits).raw (width + 12) =
      some (wideImage width hfits).frame := by
  have hsize : (wideImage width hfits).frame.getSize = width + 12 := by
    change width * 1 * 1 + VideoFrame.getHeaderSize = width + 12
    rw [UInt32.mul_one, UInt32.mul_one]
    rfl
  have haccepted := (wideImage width hfits).accepted .lp64 (by
    have hlength : (wideImage width hfits).payload.length = width.toNat := zeros_length _
    have h32 : Abi.lp64.sizeofVideoFrame = 32 := rfl
    omega)
  rwa [hsize] at haccepted

/-- A row of `2^24 + 1` pixels is cut short although all its reads stay inside, and a row of
`2^24 + 2` pixels has no end. -/
theorem wide_rows_not_visited :
    (∃ buffer bufsize frame, VideoFrame.fromBuffer .lp64 buffer bufsize = some frame ∧
      frame.isOK = true ∧ frame.width = 16777217 ∧
      ReadsInside frame (fun x y depth => (x, y, depth)) ∧
      ¬ VisitsOnce frame fun x y depth => (x, y, depth)) ∧
    (∃ buffer bufsize frame, VideoFrame.fromBuffer .lp64 buffer bufsize = some frame ∧
      frame.isOK = true ∧ frame.width = 16777218 ∧
      ∀ n points, createPointCloud frame (fun x y depth => (x, y, depth)) n ≠ .done points) := by
  constructor
  · have haccepted := wideImage_accepted 16777217 (by decide) (by decide)
    refine ⟨_, _, _, haccepted, rfl, rfl, ?_, ?_⟩
    · exact (readsInside_iff .lp64 _ _ _ _ haccepted rfl).mpr
        ⟨by decide, by decide, by decide, Or.inr (Or.inl rfl)⟩
    · intro h
      have hlimits := (visits_accepted_iff .lp64 _ _ _ _ haccepted rfl).mp h
      exact absurd hlimits.1 (by decide)
  · have haccepted := wideImage_accepted 16777218 (by decide) (by decide)
    refine ⟨_, _, _, haccepted, rfl, rfl, ?_⟩
    intro n points hdone
    have hinside := (readsInside_iff .lp64 _ _ _ _ haccepted rfl).mp
      (readsInside_of_done ⟨n, hdone⟩)
    exact absurd hinside.2.1 (by decide)

end KinectHelper.PclSegmentation
