import KinectHelper.Segmentation.BoxesInFrame
import KinectHelper.Segmentation.DepthPath

namespace KinectHelper.PclSegmentation

open DepthPath PclObjectDetector

variable {P : Type*}

/-- The little-endian 16-bit word at an offset of `data`. -/
def wordAt (data : Block) (off : Nat) : Nat :=
  (data.getD off 0).toNat + 256 * (data.getD (off + 1) 0).toNat

theorem loadHalf_wordAt {data : Block} {off : Nat} (h : off + 2 ≤ data.length) :
    loadHalf data off = some (wordAt data off) := by
  have hbytes : (data.drop off).take 2 = [data.getD off 0, data.getD (off + 1) 0] := by
    have hlow : off < data.length := by omega
    have hhigh : off + 1 < data.length := by omega
    rw [List.drop_eq_getElem_cons hlow, List.drop_eq_getElem_cons hhigh, List.take_succ_cons,
      List.take_succ_cons, List.take_zero, List.getD_eq_getElem?_getD,
      List.getD_eq_getElem?_getD, List.getElem?_eq_getElem hlow, List.getElem?_eq_getElem hhigh,
      Option.getD_some, Option.getD_some]
  rw [loadHalf, loadBytes, if_pos h, hbytes, Option.map_some]
  rfl

theorem wordAt_take {data : Block} {off n : Nat} (h : off + 2 ≤ n) :
    wordAt (data.take n) off = wordAt data off := by
  simp only [wordAt, List.getD_eq_getElem?_getD, List.getElem?_take_of_lt (show off < n by omega),
    List.getElem?_take_of_lt (show off + 1 < n by omega)]

/-- A frame of three channels with the first bytes of `data` as its payload. -/
structure Carries (g : VideoFrame) (w h : UInt32) (data : Block) : Prop where
  width : g.width = w
  height : g.height = h
  nchannels : g.nchannels = 3
  getFrame : g.getFrame = data.take (3 * (w.toNat * h.toNat))
  length : 3 * (w.toNat * h.toNat) ≤ data.length

section Carried

variable {g : VideoFrame} {w h : UInt32} {data : Block}

theorem decoded_carries {abi : Abi} {f : VideoFrame}
    (hfits : 3 * (w.toNat * h.toNat) + 12 < 2^32) (hf : VideoFrame.fromData w h 3 data = some f)
    (hg : VideoFrame.decodeRaw abi f = some g) (hok : g.isOK = true) : Carries g w h data := by
  obtain ⟨_, hlen, hframe⟩ := (VideoFrame.fromData_eq_some_iff w h 3 data f).mp hf
  have hproduct : w.toNat * h.toNat * (3 : UInt32).toNat % 2^32 = 3 * (w.toNat * h.toNat) := by
    have h3 : (3 : UInt32).toNat = 3 := rfl
    rw [h3]
    omega
  rw [hproduct] at hlen hframe
  let img := rgbImage w h (data.take (3 * (w.toNat * h.toNat))) (by simp [hlen]) hfits
  have himg : f = img.frame := hframe
  subst himg
  have hdec := img.decodeRaw_image abi
  rw [hg] at hdec
  obtain rfl := Option.some.inj hdec
  split_ifs at hok ⊢ with hbig
  · exact ⟨rfl, rfl, rfl, img.getFrame_frame, hlen⟩
  · simp [VideoFrame.isOK] at hok

theorem Carries.inside (hg : Carries g w h data) {k : Nat} (hk : k < w.toNat * h.toNat) :
    Inside g (k * intChannels g) := by
  have hlen := hg.length
  rw [intChannels_three hg.nchannels, Inside, hg.getFrame, List.length_take]
  omega

theorem Carries.depthAt (hg : Carries g w h data) {k : Nat} (hk : k < w.toNat * h.toNat) :
    depthAt g (k * intChannels g) = wordAt data (3 * k) := by
  have hlen := hg.length
  have hoff : ((k : Int) * 3).toNat = 3 * k := by omega
  have hin : 3 * k + 2 ≤ (data.take (3 * (w.toNat * h.toNat))).length := by
    rw [List.length_take]
    omega
  rw [PclSegmentation.depthAt, readDepth, intChannels_three hg.nchannels, hg.getFrame,
    if_pos (by omega), hoff, loadHalf_wordAt hin, Option.getD_some, wordAt_take (by omega)]

/-- The loops end with one point for each pixel whose word is not zero. -/
theorem Carries.cloud (hg : Carries g w h data) (hw : w.toNat ≤ 2^24) (hh : h.toNat ≤ 2^24)
    (point : Nat → Nat → Nat → P) :
    Visits g point (.done (imagePoints w.toNat h.toNat (fun k => wordAt data (3 * k)) point)) := by
  have hW : toFloat g.width = w.toNat := by rw [hg.width, toFloat_exact hw]
  have hH : toFloat g.height = h.toNat := by rw [hg.height, toFloat_exact hh]
  have hinside : ∀ k < toFloat g.height * toFloat g.width, Inside g (k * intChannels g) := by
    intro k hk
    rw [hW, hH, Nat.mul_comm] at hk
    exact hg.inside hk
  have hdone := cloud_done g point (hW ▸ hw) (hH ▸ hh) hinside
  rw [hH, rowsPoints_eq point hW hw hh] at hdone
  rwa [imagePoints_congr point fun k hk => hg.depthAt hk] at hdone

end Carried

theorem truncate_natCast (n : Nat) : truncate (n : ℚ) = n := by
  unfold truncate
  rw [if_pos (Nat.cast_nonneg n)]
  exact Int.floor_natCast n

/-- A pixel with a depth is found again on the screen. -/
theorem convertPointToScreen_point {width height xi yi depth : Nat} (hdepth : depth ≠ 0) :
    exactCamera.convertPointToScreen width height (exactCamera.point width height xi yi depth) =
      ((xi : Int), (yi : Int)) := by
  have hz : (depth : ℚ) / 1000 ≠ 0 := by
    have hd : (depth : ℚ) ≠ 0 := Nat.cast_ne_zero.mpr hdepth
    positivity
  have hscale : multiplier * ((depth : ℚ) / 1000) ≠ 0 := mul_ne_zero multiplier_pos.ne' hz
  have hcancel : ∀ q : ℚ, q * multiplier * (depth / 1000) / (multiplier * (depth / 1000)) = q := by
    intro q
    rw [mul_assoc, mul_div_cancel_right₀ q hscale]
  have hcolumn : ((xi : ℚ) - width / 2) + width / 2 = xi := by ring
  have hrow : (height : ℚ) / 2 - -(yi - height / 2) = yi := by ring
  dsimp only [exactCamera]
  rw [hcancel, hcancel, hcolumn, hrow, truncate_natCast, truncate_natCast]

/-- The point of pixel `(x, y)` with the word `v`. -/
def pixelPoint (width height x y v : Nat) : PointXYZ where
  x := (x - width / 2) * multiplier * (v / 1000)
  y := -(y - height / 2) * multiplier * (v / 1000)
  z := v / 1000

/-- `CreatePointCloud` computes exactly the pixels of non-zero depth, and
`ConvertPointToScreen` gives each of them back. -/
theorem cloud_of_nonzero_depths (abi : Abi) (w h : UInt32) (data : Block) (f g : VideoFrame)
    (hw : w.toNat ≤ 2^24) (hh : h.toNat ≤ 2^24) (hfits : 3 * (w.toNat * h.toNat) + 12 < 2^32)
    (hf : VideoFrame.fromData w h 3 data = some f) (hg : VideoFrame.decodeRaw abi f = some g)
    (hok : g.isOK = true) :
    Visits g (exactCamera.point w.toNat h.toNat) (.done
      ((List.range h.toNat).flatMap fun y => (List.range w.toNat).flatMap fun x =>
        if wordAt data (3 * (w.toNat * y + x)) ≠ 0 then
          [pixelPoint w.toNat h.toNat x y (wordAt data (3 * (w.toNat * y + x)))]
        else [])) ∧
    ∀ x y v, v ≠ 0 → exactCamera.convertPointToScreen w.toNat h.toNat
      (pixelPoint w.toNat h.toNat x y v) = ((x : Int), (y : Int)) := by
  have hcarries := decoded_carries hfits hf hg hok
  constructor
  · exact hcarries.cloud hw hh (exactCamera.point w.toNat h.toNat)
  · intro x y v hv
    exact convertPointToScreen_point hv

/-- Three pixels, of which the second is at 256 + 7 mm and the others have no depth. -/
def threePixels : VideoFrame :=
  ⟨3, 1, 3, some (VideoFrame.encoded 3 1 3 [0, 0, 9, 7, 1, 9, 0, 0, 9]), some sizeofHeader⟩

theorem second_pixel_only :
    Visits threePixels (exactCamera.point 3 1) (.done [pixelPoint 3 1 1 0 263]) ∧
      ∀ x y v, v ≠ 0 → exactCamera.convertPointToScreen 3 1 (pixelPoint 3 1 x y v) =
        ((x : Int), (y : Int)) :=
  cloud_of_nonzero_depths .ilp32 3 1 [0, 0, 9, 7, 1, 9, 0, 0, 9] threePixels threePixels
    (by decide) (by decide) (by decide) (by decide) (by decide) rfl

end KinectHelper.PclSegmentation
