import KinectHelper.KinectTypes.Codec
import KinectHelper.Segmentation.CreatePointCloud
import KinectHelper.WxKinectHelper.ReadDepth

namespace KinectHelper.DepthPath

open KinectGrabberMSW PclSegmentation

variable {P : Type*}

/-- The depth of a sample: its upper 13 bits. -/
def depth (s : UInt16) : Nat := s.toNat >>> 3

/-- The points of an image whose pixel number `k` has depth `depthOf k`, row by row. -/
def imagePoints (w h : Nat) (depthOf : Nat → Nat) (point : Nat → Nat → Nat → P) : List P :=
  (List.range h).flatMap fun y => (List.range w).flatMap fun x =>
    if depthOf (w * y + x) ≠ 0 then [point x y (depthOf (w * y + x))] else []

theorem imagePoints_congr {w h : Nat} {depthOf depthOf' : Nat → Nat}
    (point : Nat → Nat → Nat → P) (heq : ∀ k, k < w * h → depthOf k = depthOf' k) :
    imagePoints w h depthOf point = imagePoints w h depthOf' point := by
  unfold imagePoints
  refine List.flatMap_congr fun y hy => List.flatMap_congr fun x hx => ?_
  rw [List.mem_range] at hy hx
  rw [heq _ (pixel_lt hy hx)]

/-- The server's constructor accepts the client's frames of this size. -/
def ServerAccepts (abi : Abi) (w h : UInt32) : Prop :=
  ∀ data f, data.length = 3 * (w.toNat * h.toNat) → VideoFrame.fromData w h 3 data = some f →
    ∃ g, VideoFrame.decodeRaw abi f = some g ∧ g.isOK = true

/-- From the locked rectangle to the cloud: one point for each pixel of non-zero depth, in
row-major order, made of exactly that depth. -/
def DepthSurvives (abi : Abi) (w h : UInt32) (samples : List UInt16)
    (point : Nat → Nat → Nat → P) : Prop :=
  ∀ buffer : Block, buffer.length = 3 * (w.toNat * h.toNat) →
    ∃ data f g,
      readDepthLockedRect ⟨2 * w.toNat, samples.flatMap sampleBytes⟩ w.toNat h.toNat buffer =
        some data ∧
      VideoFrame.fromData w h 3 data = some f ∧
      VideoFrame.decodeRaw abi f = some g ∧ g.isOK = true ∧
      Visits g point (.done (imagePoints w.toNat h.toNat (fun k => depth (samples.getD k 0)) point))

/-- The depth the server reads from the two channels of a sample. -/
def packedDepth (s : UInt16) : Nat := leValue ((depthBytes s).take 2)

theorem packedDepth_eq (s : UInt16) : packedDepth s = s.toNat / 8 % 4096 := by
  have hlow : s.toNat >>> 3 &&& 0xff = s.toNat / 8 % 256 := by
    rw [Nat.shiftRight_eq_div_pow]
    exact Nat.and_two_pow_sub_one_eq_mod _ 8
  have hhigh : s.toNat >>> 11 &&& 0xf = s.toNat / 2048 % 16 := by
    rw [Nat.shiftRight_eq_div_pow]
    exact Nat.and_two_pow_sub_one_eq_mod _ 4
  simp only [packedDepth, depthBytes, List.take_succ_cons, List.take_zero, leValue, hlow, hhigh,
    UInt8.toNat_ofNat']
  omega

/-- The mask of the second channel loses the highest of the 13 bits. -/
theorem packedDepth_eq_iff (s : UInt16) : packedDepth s = depth s ↔ s.toNat < 2^15 := by
  have hs : s.toNat < 2^16 := s.toNat_lt
  have hdepth : depth s = s.toNat / 8 := Nat.shiftRight_eq_div_pow _ 3
  rw [packedDepth_eq, hdepth]
  omega

section Server

variable {g : VideoFrame} {samples : List UInt16}

/-- The frame the server holds: three channels to a sample. -/
structure Holds (g : VideoFrame) (w h : UInt32) (samples : List UInt16) : Prop where
  width : g.width = w
  height : g.height = h
  nchannels : g.nchannels = 3
  getFrame : g.getFrame = samples.flatMap depthBytes
  length : samples.length = w.toNat * h.toNat

theorem intChannels_three (hg : g.nchannels = 3) : intChannels g = 3 := by
  have h3 : (3 : UInt32).toNat = 3 := rfl
  rcases intChannels_cases g with ⟨_, h⟩ | ⟨hbig, _⟩
  · rw [h, hg, h3]
    rfl
  · rw [hg, h3] at hbig
    omega

theorem loadHalf_depth {k : Nat} (hk : k < samples.length) :
    loadHalf (samples.flatMap depthBytes) (3 * k) = some (packedDepth (samples.getD k 0)) := by
  have hpixel : depthBytes samples[k] = (depthBytes samples[k]).take 2 ++ [0] := rfl
  have hload := loadHalf_record depthBytes 3 (fun _ => rfl) samples hk hpixel rfl
  have hget : samples.getD k 0 = samples[k] := by simp [List.getD_eq_getElem?_getD, hk]
  rw [hload, packedDepth, hget]

theorem Holds.inside {w h : UInt32} (hg : Holds g w h samples) {k : Nat}
    (hk : k < w.toNat * h.toNat) : Inside g (k * intChannels g) := by
  have hlen := flatMap_length depthBytes 3 (fun _ => rfl) samples
  have hlength := hg.length
  rw [intChannels_three hg.nchannels, Inside, hg.getFrame, hlen]
  omega

theorem Holds.depthAt {w h : UInt32} (hg : Holds g w h samples) {k : Nat}
    (hk : k < w.toNat * h.toNat) :
    depthAt g (k * intChannels g) = packedDepth (samples.getD k 0) := by
  have hload := loadHalf_depth (hg.length ▸ hk)
  have hoff : ((k : Int) * 3).toNat = 3 * k := by omega
  rw [PclSegmentation.depthAt, readDepth, intChannels_three hg.nchannels, hg.getFrame,
    if_pos (by omega), hoff, hload, Option.getD_some]

theorem rowsPoints_eq {w h : Nat} (point : Nat → Nat → Nat → P) (hw : toFloat g.width = w)
    (hw24 : w ≤ 2^24) (hh24 : h ≤ 2^24) :
    rowsPoints g point h = imagePoints w h (fun k => depthAt g (k * intChannels g)) point := by
  unfold rowsPoints imagePoints rowPoints
  refine List.flatMap_congr fun y hy => ?_
  rw [List.mem_range] at hy
  rw [hw]
  refine List.flatMap_congr fun x hx => ?_
  rw [List.mem_range] at hx
  have hy' : min y (2^floatBits) = y := Nat.min_eq_left (hy.le.trans hh24)
  have hx' : min x (2^floatBits) = x := Nat.min_eq_left (hx.le.trans hw24)
  have hd : ((y * w : Nat) : Int) * intChannels g + x * intChannels g =
      ((w * y + x : Nat) : Int) * intChannels g := by
    push_cast
    ring
  rw [hy', hx', hd, pixelPoints]

theorem Holds.cloud {w h : UInt32} (hg : Holds g w h samples) (hw : w.toNat ≤ 2^24)
    (hh : h.toNat ≤ 2^24) (point : Nat → Nat → Nat → P) :
    Visits g point (.done (imagePoints w.toNat h.toNat
      (fun k => packedDepth (samples.getD k 0)) point)) := by
  have hW : toFloat g.width = w.toNat := by rw [hg.width, toFloat_exact hw]
  have hH : toFloat g.height = h.toNat := by rw [hg.height, toFloat_exact hh]
  have hdone := cloud_done g point (by rw [hW]; exact hw) (by rw [hH]; exact hh) (by
    intro k hk
    rw [hW, hH, Nat.mul_comm] at hk
    exact hg.inside hk)
  rw [hH, rowsPoints_eq point hW hw hh] at hdone
  rwa [imagePoints_congr point fun k hk => hg.depthAt hk] at hdone

end Server

/-- The picture of a frame of three channels. -/
def rgbImage (w h : UInt32) (payload : Block) (hlen : payload.length = 3 * (w.toNat * h.toNat))
    (hfits : 3 * (w.toNat * h.toNat) + 12 < 2^32) : Image where
  width := w
  height := h
  nchannels := 3
  payload := payload
  payload_length := by
    rw [hlen, Nat.mul_comm]
    rfl
  fits := by rwa [Nat.mul_comm 3] at hfits

theorem decoded_holds {abi : Abi} {w h : UInt32} {samples : List UInt16}
    (haccept : ServerAccepts abi w h) (hlen : samples.length = w.toNat * h.toNat)
    (hint : 3 * (w.toNat * h.toNat) < 2^31) :
    ∃ f g, VideoFrame.fromData w h 3 (samples.flatMap depthBytes) = some f ∧
      VideoFrame.decodeRaw abi f = some g ∧ g.isOK = true ∧ Holds g w h samples := by
  have hbytes := flatMap_length depthBytes 3 (fun _ => rfl) samples
  rw [hlen] at hbytes
  let img := rgbImage w h (samples.flatMap depthBytes) hbytes (by omega)
  have hfrom : VideoFrame.fromData w h 3 (samples.flatMap depthBytes) = some img.frame :=
    img.fromData_image
  obtain ⟨g, hg, hok⟩ := haccept _ _ hbytes hfrom
  have hdec := img.decodeRaw_image abi
  rw [hg] at hdec
  split_ifs at hdec with hbig
  · obtain rfl := Option.some.inj hdec
    exact ⟨img.frame, img.frame, hfrom, hg, hok, rfl, rfl, rfl, img.getFrame_frame, hlen⟩
  · obtain rfl := Option.some.inj hdec
    cases hok

theorem serverAccepts_of_large {abi : Abi} {w h : UInt32}
    (hlarge : abi.sizeofVideoFrame < 3 * (w.toNat * h.toNat) + 12)
    (hfits : 3 * (w.toNat * h.toNat) + 12 < 2^32) : ServerAccepts abi w h := by
  intro data f hlen hf
  let img := rgbImage w h data hlen hfits
  have hfrom : VideoFrame.fromData w h 3 data = some img.frame := img.fromData_image
  obtain rfl := Option.some.inj (hf.symm.trans hfrom)
  have hdec := img.decodeRaw_image abi
  rw [if_pos (by rwa [← hlen] at hlarge)] at hdec
  exact ⟨img.frame, hdec, rfl⟩

/-- The whole path keeps the image, with the depth of the packed channels. -/
theorem path_cloud {abi : Abi} {w h : UInt32} {samples : List UInt16}
    (haccept : ServerAccepts abi w h) (hw : 1 ≤ w.toNat ∧ w.toNat ≤ 2^24)
    (hh : 1 ≤ h.toNat ∧ h.toNat ≤ 2^24) (hlen : samples.length = w.toNat * h.toNat)
    (hint : 3 * (w.toNat * h.toNat) < 2^31) (buffer : Block)
    (hbuffer : buffer.length = 3 * (w.toNat * h.toNat)) :
    ∃ data f g,
      readDepthLockedRect ⟨2 * w.toNat, samples.flatMap sampleBytes⟩ w.toNat h.toNat buffer =
        some data ∧
      VideoFrame.fromData w h 3 data = some f ∧
      VideoFrame.decodeRaw abi f = some g ∧ g.isOK = true ∧
      ∀ point : Nat → Nat → Nat → P, Visits g point (.done (imagePoints w.toNat h.toNat
        (fun k => packedDepth (samples.getD k 0)) point)) := by
  obtain ⟨f, g, hf, hg, hok, hholds⟩ := decoded_holds haccept hlen hint
  refine ⟨_, f, g, ?_, hf, hg, hok, fun point => hholds.cloud hw.2 hh.2 point⟩
  exact readDepthLockedRect_eq _ samples buffer _ _ (by omega) hlen hbuffer hint

theorem mem_imagePoints {w h : Nat} {depthOf : Nat → Nat} {x y d : Nat} :
    (x, y, d) ∈ imagePoints w h depthOf (fun x y d => (x, y, d)) ↔
      y < h ∧ x < w ∧ depthOf (w * y + x) ≠ 0 ∧ d = depthOf (w * y + x) := by
  simp only [imagePoints, List.mem_flatMap, List.mem_range]
  constructor
  · intro ⟨y', hy, x', hx, hmem⟩
    split_ifs at hmem with hd
    · simp only [List.mem_singleton, Prod.mk.injEq] at hmem
      obtain ⟨rfl, rfl, rfl⟩ := hmem
      exact ⟨hy, hx, hd, rfl⟩
    · cases hmem
  · intro ⟨hy, hx, hd, heq⟩
    refine ⟨y, hy, x, hx, ?_⟩
    rw [if_pos hd, heq]
    exact List.mem_singleton_self _

theorem depth_of_imagePoints {w h : Nat} {depthOf depthOf' : Nat → Nat}
    (heq : imagePoints w h depthOf (fun x y d => (x, y, d)) =
      imagePoints w h depthOf' (fun x y d => (x, y, d)))
    {k : Nat} (hk : k < w * h) (hne : depthOf k ≠ 0) : depthOf' k = depthOf k := by
  have hw : 0 < w := Nat.pos_of_mul_pos_right (Nat.zero_lt_of_lt hk)
  have hindex : w * (k / w) + k % w = k := Nat.div_add_mod k w
  have hmem := (@mem_imagePoints w h depthOf (k % w) (k / w) (depthOf k)).mpr
    ⟨(Nat.div_lt_iff_lt_mul hw).mpr (by rwa [Nat.mul_comm] at hk), Nat.mod_lt k hw,
      by rwa [hindex], by rw [hindex]⟩
  rw [heq] at hmem
  have := (mem_imagePoints.mp hmem).2.2.2
  rw [hindex] at this
  exact this.symm

theorem DepthSurvives.limits {abi : Abi} {w h : UInt32} {samples : List UInt16}
    (haccept : ServerAccepts abi w h) (hw : 1 ≤ w.toNat ∧ w.toNat ≤ 2^24)
    (hh : 1 ≤ h.toNat ∧ h.toNat ≤ 2^24) (hlen : samples.length = w.toNat * h.toNat)
    (hsurvives : DepthSurvives abi w h samples (fun x y d => (x, y, d))) :
    (∀ s ∈ samples, s.toNat < 2^15) ∧ 3 * (w.toNat * h.toNat) < 2^31 := by
  have hbuffer := zeros_length (3 * (w.toNat * h.toNat))
  obtain ⟨data, f, g, hread, hf, hg, _, hcloud⟩ := hsurvives _ hbuffer
  have hint := readDepthLockedRect_int (by omega) hw.1 hh.1 hread
  refine ⟨?_, hint⟩
  obtain ⟨data', f', g', hread', hf', hg', _, hcloud'⟩ :=
    @path_cloud (Nat × Nat × Nat) abi w h samples haccept hw hh hlen hint _ hbuffer
  obtain rfl := Option.some.inj (hread.symm.trans hread')
  obtain rfl := Option.some.inj (hf.symm.trans hf')
  obtain rfl := Option.some.inj (hg.symm.trans hg')
  have hsame := LeadsTo.halted_unique rfl rfl hcloud (hcloud' fun x y d => (x, y, d))
  injection hsame with hpoints
  intro s hs
  obtain ⟨k, hk, rfl⟩ := List.mem_iff_getElem.mp hs
  have hget : samples.getD k 0 = samples[k] := by simp [List.getD_eq_getElem?_getD, hk]
  by_contra hbig
  -- the pixel of a sample with the highest bit has the wrong depth
  have hne : depth (samples.getD k 0) ≠ 0 := by
    rw [hget, depth, Nat.shiftRight_eq_div_pow]
    omega
  have hdepth := depth_of_imagePoints hpoints (hlen ▸ hk) hne
  rw [hget, packedDepth_eq_iff] at hdepth
  exact hbig hdepth

/-- Depth survives the path if and only if no sample uses the highest depth bit and the offsets
into the three-channel image stay in an `int`. -/
theorem depth_survives_iff (abi : Abi) (w h : UInt32) (samples : List UInt16)
    (hw : 1 ≤ w.toNat ∧ w.toNat ≤ 2^24) (hh : 1 ≤ h.toNat ∧ h.toNat ≤ 2^24)
    (hlen : samples.length = w.toNat * h.toNat) (haccept : ServerAccepts abi w h) :
    (∀ (P : Type) (point : Nat → Nat → Nat → P), DepthSurvives abi w h samples point) ↔
      (∀ s ∈ samples, s.toNat < 2^15) ∧ 3 * (w.toNat * h.toNat) < 2^31 := by
  constructor
  · intro hsurvives
    exact (hsurvives _ fun x y d => (x, y, d)).limits haccept hw hh hlen
  · intro ⟨hsamples, hint⟩ P point buffer hbuffer
    obtain ⟨data, f, g, hread, hf, hg, hok, hcloud⟩ :=
      path_cloud haccept hw hh hlen hint buffer hbuffer
    refine ⟨data, f, g, hread, hf, hg, hok, ?_⟩
    have hexact (k : Nat) (hk : k < w.toNat * h.toNat) :
        packedDepth (samples.getD k 0) = depth (samples.getD k 0) := by
      have hget : samples.getD k 0 = samples[k] := by simp [List.getD_eq_getElem?_getD, hlen, hk]
      rw [packedDepth_eq_iff, hget]
      exact hsamples _ (List.getElem_mem _)
    have hdone := hcloud point
    rwa [imagePoints_congr point hexact] at hdone

theorem four_by_two_survives :
    DepthSurvives .lp64 4 2 [0, 8, 4000, 32767, 7, 15, 0, 1] (fun x y d => (x, y, d)) :=
  (depth_survives_iff .lp64 4 2 [0, 8, 4000, 32767, 7, 15, 0, 1] (by decide) (by decide)
    (by decide) (serverAccepts_of_large (by decide) (by decide))).mpr ⟨by simp, by decide⟩ _ _

/-- A sample at 4096 mm arrives as no depth at all. -/
theorem depth_4096_lost :
    ServerAccepts .lp64 4 2 ∧
      ¬ DepthSurvives .lp64 4 2 [32768, 0, 0, 0, 0, 0, 0, 0] (fun x y d => (x, y, d)) := by
  have haccept : ServerAccepts .lp64 4 2 := serverAccepts_of_large (by decide) (by decide)
  refine ⟨haccept, ?_⟩
  intro hsurvives
  have hlimits := hsurvives.limits haccept (by decide) (by decide) (by decide)
  exact absurd (hlimits.1 32768 List.mem_cons_self) (by decide)

end KinectHelper.DepthPath
