import KinectHelper.ObjDetector.ImportedImage
import KinectHelper.Segmentation.NonZeroDepths
import KinectHelper.WxKinectHelper.LockedRects

namespace KinectHelper.ColorPath

open KinectGrabberMSW DepthPath PclSegmentation

/-- From the locked rectangle through the frame to the image: the three bytes of pixel `(x, y)` of
the image are the red, green and blue bytes of its `RGBQUAD`. -/
def ColorSurvives (cv : OpenCV) (abi : Abi) (w h : UInt32) (pitch : Nat) : Prop :=
  ∀ bits buffer : Block, bits.length = h.toNat * pitch →
    buffer.length = 3 * (w.toNat * h.toNat) →
    ∃ data f g img,
      readColorLockedRect ⟨pitch, bits⟩ w.toNat h.toNat buffer = some data ∧
      VideoFrame.fromData w h 3 data = some f ∧
      VideoFrame.decodeRaw abi f = some g ∧ g.isOK = true ∧ importFrame cv g = some img ∧
      ∀ y x, y < h.toNat → x < w.toNat →
        ∃ quad, loadBytes bits (y * pitch + x * 4) 4 = some quad ∧
          loadBytes img.imageData (y * img.widthStep + 3 * x) 3 = some (colorChannels quad)

variable {cv : OpenCV} {abi : Abi} {w h : UInt32} {pitch : Nat}

theorem filled_length {f : Nat → Block} {n : Nat} {data b : Block} (hfilled : Filled f n data n b)
    (hf : ∀ k, (f k).length = 3) (hdata : data.length = 3 * n) : b.length = 3 * n := by
  have hall : (List.range n).take n = List.range n :=
    List.take_of_length_le (List.length_range ▸ le_rfl)
  unfold Filled at hfilled
  rw [hfilled, hall, List.length_append, flatMap_length f 3 hf, List.length_range,
    List.length_drop, hdata]
  omega

/-- What the server imports of a frame that crossed the codec. -/
theorem Carries.importFrame {g : VideoFrame} {data : Block} (hg : Carries g w h data)
    (hdata : data.length = 3 * (w.toNat * h.toNat)) :
    importFrame cv g = importImage cv w.toNat h.toNat 3 data := by
  have h3 : (3 : UInt32).toNat = 3 := rfl
  rw [KinectHelper.importFrame, hg.width, hg.height, hg.nchannels, h3, hg.getFrame, ← hdata,
    List.take_length]

/-- Rows of whole words make the image the payload itself. -/
theorem importImage_packed {n rows : Nat} {data : Block} (hn : 0 < n) (hrows : 0 < rows)
    (h4 : 4 ∣ n) (hint : 3 * (n * rows) < 2^31) (hdata : data.length = 3 * (n * rows)) :
    ∃ img, importImage cv n rows 3 data = some img ∧ img.widthStep = n * 3 ∧
      img.imageData = data := by
  have haligned : alignedRow (n * 3) = n * 3 := (alignedRow_eq_iff _).mpr (h4.mul_right 3)
  have hsize : alignedRow (n * 3) * rows = 3 * (n * rows) := by
    rw [haligned]
    ring
  obtain ⟨img, himg⟩ := importImage_isSome cv hn hrows (Nat.succ_pos 2) (by rwa [hsize])
    (by rw [hsize, hdata])
  obtain ⟨hstep, _, _, hbytes, _⟩ := importImage_eq_some himg
  rw [hsize, ← hdata, List.take_length] at hbytes
  exact ⟨img, himg, hstep.trans haligned, hbytes⟩

theorem packed_of_importImage {n rows : Nat} {data : Block} {img : IplImage} (hrows : 0 < rows)
    (himg : importImage cv n rows 3 data = some img) (hdata : data.length = 3 * (n * rows)) :
    4 ∣ n := by
  obtain ⟨_, _, hinside, _, _⟩ := importImage_eq_some himg
  have hbytes : 3 * (n * rows) = n * 3 * rows := by ring
  rw [hdata, hbytes] at hinside
  have hrow := Nat.le_of_mul_le_mul_right hinside hrows
  have h4 := (alignedRow_eq_iff _).mp (Nat.le_antisymm hrow (alignedRow_ge (n * 3)))
  exact Nat.Coprime.dvd_of_dvd_mul_right (by decide) h4

/-- Colour survives the whole path if and only if the width is a multiple of four pixels and the
offsets into the image stay in an `int`. -/
theorem color_survives_iff (cv : OpenCV) (abi : Abi) (w h : UInt32) (pitch : Nat) (hw : 0 < w.toNat)
    (hh : 0 < h.toNat) (hrow : 4 * w.toNat ≤ pitch)
    (hlarge : abi.sizeofVideoFrame < 3 * (w.toNat * h.toNat) + 12) :
    ColorSurvives cv abi w h pitch ↔ 4 ∣ w.toNat ∧ 3 * (w.toNat * h.toNat) < 2^31 := by
  have hpitch : pitch ≠ 0 := by omega
  have hframe {data : Block} {f g : VideoFrame} (hint : 3 * (w.toNat * h.toNat) < 2^31)
      (hf : VideoFrame.fromData w h 3 data = some f) (hg : VideoFrame.decodeRaw abi f = some g)
      (hok : g.isOK = true) : Carries g w h data := decoded_carries (by omega) hf hg hok
  constructor
  · intro hsurvives
    obtain ⟨data, f, g, img, hread, hf, hg, hok, himg, _⟩ := hsurvives
      (zeros (h.toNat * pitch)) (zeros (3 * (w.toNat * h.toNat))) (by simp) (by simp)
    have hint := readColorLockedRect_int hpitch hw hh hread
    obtain ⟨out, hout, hfilled⟩ := @readColorLockedRect_rows w.toNat h.toNat pitch
      (zeros (h.toNat * pitch)) (zeros (3 * (w.toNat * h.toNat))) hpitch hrow (by simp) (by simp)
      hint
    obtain rfl : data = out := Option.some.inj (hread.symm.trans hout)
    have hdata := filled_length hfilled (colorAt_length _ _ _) (by simp)
    rw [Carries.importFrame (hframe hint hf hg hok) hdata] at himg
    exact ⟨packed_of_importImage hh himg hdata, hint⟩
  · intro hfits bits buffer hbits hbuffer
    obtain ⟨h4, hint⟩ := hfits
    obtain ⟨data, hread, hfilled⟩ := readColorLockedRect_rows hpitch hrow hbits hbuffer.ge hint
    have hdata := filled_length hfilled (colorAt_length _ _ _) hbuffer
    have hfits : 3 * (w.toNat * h.toNat) + 12 < 2^32 := by omega
    have hf : VideoFrame.fromData w h 3 data = some (rgbImage w h data hdata hfits).frame :=
      (rgbImage w h data hdata hfits).fromData_image
    obtain ⟨g, hg, hok⟩ := serverAccepts_of_large hlarge hfits data _ hdata hf
    obtain ⟨img, himg, hstep, hbytes⟩ := importImage_packed hw hh h4 hint hdata
    refine ⟨data, _, g, img, hread, hf, hg, hok, ?_, ?_⟩
    · rw [Carries.importFrame (hframe hint hf hg hok) hdata, himg]
    · intro y x hy hx
      have hend := row_end_le hbits hy
      have hpixel := hfilled.pixel (colorAt_length _ _ _) (pixel_lt hy hx)
      rw [colorAt_pixel bits pitch y hx] at hpixel
      have hindex : y * img.widthStep + 3 * x = 3 * (w.toNat * y + x) := by
        rw [hstep]
        ring
      refine ⟨_, if_pos (by omega), ?_⟩
      rw [hindex, hbytes]
      exact hpixel

theorem four_by_two_colors_survive : ColorSurvives documentedCV .lp64 4 2 20 :=
  (color_survives_iff documentedCV .lp64 4 2 20 (by decide) (by decide) (by decide)
    (by decide)).mpr (by decide)

end KinectHelper.ColorPath
