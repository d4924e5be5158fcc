import Mathlib.Tactic.Ring
import KinectHelper.Framework.Loop
import KinectHelper.KinectTypes.VideoFrame
import KinectHelper.ObjDetector.ObjectDefinition

namespace KinectHelper

/-- The image that `DetectObject` imports of a frame. -/
def importFrame (cv : OpenCV) (frame : VideoFrame) : Option IplImage :=
  importImage cv frame.width.toNat frame.height.toNat frame.nchannels.toNat frame.getFrame

/-- The copy stays inside the payload, and every sample stands at its place in the padded rows. -/
def ImportedRight (cv : OpenCV) (frame : VideoFrame) : Prop :=
  ∃ img, importFrame cv frame = some img ∧
    ∀ x y k, x < frame.width.toNat → y < frame.height.toNat → k < frame.nchannels.toNat →
      ∃ b, frame.getFrame[(y * frame.width.toNat + x) * frame.nchannels.toNat + k]? = some b ∧
        img.imageData[y * img.widthStep + x * frame.nchannels.toNat + k]? = some b

theorem alignedRow_eq_iff (n : Nat) : alignedRow n = n ↔ 4 ∣ n := by
  unfold alignedRow
  omega

theorem alignedRow_ge (n : Nat) : n ≤ alignedRow n := by
  unfold alignedRow
  omega

section Import

variable {cv : OpenCV} {w h c : Nat} {data : Block}

theorem importImage_eq_some {img : IplImage} (himg : importImage cv w h c data = some img) :
    img.widthStep = alignedRow (w * c) ∧ alignedRow (w * c) * h < 2^31 ∧
      alignedRow (w * c) * h ≤ data.length ∧
      img.imageData = data.take (alignedRow (w * c) * h) ∧ img.nChannels = c := by
  obtain ⟨created, hcreated, hrest⟩ := Option.bind_eq_some_iff.mp himg
  obtain ⟨_, _, hchannels, hstep, hsize, hint⟩ := cv.created hcreated
  obtain ⟨bytes, hload, hlast⟩ := Option.bind_eq_some_iff.mp hrest
  obtain ⟨hinside, hbytes⟩ := (loadBytes_eq_some_iff _ _ _ _).mp hload
  split_ifs at hlast
  obtain rfl := Option.some.inj hlast
  rw [hsize] at hinside hbytes hint
  rw [zero_add] at hinside
  exact ⟨hstep, hint, hinside, hbytes.symm, hchannels⟩

theorem importImage_isSome (cv : OpenCV) (hw : 0 < w) (hh : 0 < h) (hc : 0 < c)
    (hint : alignedRow (w * c) * h < 2^31) (hdata : alignedRow (w * c) * h ≤ data.length) :
    ∃ img, importImage cv w h c data = some img := by
  obtain ⟨created, hcreated⟩ := cv.creates hw hh hc hint
  have hsize := (cv.created hcreated).imageSize
  have hload : loadBytes data 0 created.imageSize = some (data.take created.imageSize) := by
    rw [loadBytes_eq_some_iff]
    exact ⟨by omega, rfl⟩
  have hlength : (data.take created.imageSize).length = created.imageSize := by
    rw [List.length_take]
    omega
  unfold importImage
  rw [hcreated, Option.bind_eq_bind, Option.bind_some, hload, Option.bind_eq_bind,
    Option.bind_some, dif_pos hlength]
  exact ⟨_, rfl⟩

end Import

/-- The copy of an accepted frame stays inside the payload if and only if its rows need no padding
and its size is an `int`. -/
theorem importFrame_isSome_iff (cv : OpenCV) {abi : Abi} {buffer : Block} {bufsize : UInt32}
    {frame : VideoFrame} (hframe : VideoFrame.fromBuffer abi buffer bufsize = some frame)
    (hok : frame.isOK = true) :
    (∃ img, importFrame cv frame = some img) ↔
      4 ∣ frame.width.toNat * frame.nchannels.toNat ∧ frame.pixelBytes < 2^31 := by
  obtain ⟨hw, hh, hc⟩ := VideoFrame.accepted_pos hframe hok
  obtain ⟨hpayload, _, _⟩ := VideoFrame.accepted_payload hframe hok
  unfold importFrame
  unfold VideoFrame.pixelBytes at hpayload ⊢
  generalize frame.width.toNat = w at *
  generalize frame.height.toNat = h at *
  generalize frame.nchannels.toNat = c at *
  rw [Nat.mul_right_comm w h c] at hpayload ⊢
  constructor
  · intro ⟨img, himg⟩
    obtain ⟨_, hint, hinside, _, _⟩ := importImage_eq_some himg
    have hbytes : w * c * h ≤ alignedRow (w * c) * h :=
      Nat.mul_le_mul_right h (alignedRow_ge (w * c))
    rw [hpayload, Nat.mod_eq_of_lt (by omega)] at hinside
    have hrow := Nat.le_of_mul_le_mul_right hinside hh
    exact ⟨(alignedRow_eq_iff _).mp (Nat.le_antisymm hrow (alignedRow_ge _)), by omega⟩
  · intro ⟨h4, hint⟩
    have haligned := (alignedRow_eq_iff _).mpr h4
    rw [Nat.mod_eq_of_lt (by omega)] at hpayload
    exact importImage_isSome cv hw hh hc (by rwa [haligned]) (by rw [haligned, hpayload])

/-- A tightly packed frame is imported right if and only if its rows need no padding and its size
is an `int`. -/
theorem importedRight_iff (cv : OpenCV) (abi : Abi) (buffer : Block) (bufsize : UInt32)
    (frame : VideoFrame)
    (hframe : VideoFrame.fromBuffer abi buffer bufsize = some frame) (hok : frame.isOK = true)
    (hpacked : frame.getFrame.length = frame.pixelBytes) :
    ImportedRight cv frame ↔
      4 ∣ frame.width.toNat * frame.nchannels.toNat ∧ frame.pixelBytes < 2^31 := by
  obtain ⟨hw, hh, hc⟩ := VideoFrame.accepted_pos hframe hok
  unfold ImportedRight importFrame
  unfold VideoFrame.pixelBytes at hpacked ⊢
  generalize frame.width.toNat = w at *
  generalize frame.height.toNat = h at *
  generalize frame.nchannels.toNat = c at *
  have hbytes : w * h * c = w * c * h := Nat.mul_right_comm w h c
  rw [hbytes] at hpacked ⊢
  constructor
  · intro ⟨img, himg, _⟩
    obtain ⟨_, hint, hinside, _, _⟩ := importImage_eq_some himg
    rw [hpacked] at hinside
    have hrow := Nat.le_of_mul_le_mul_right hinside hh
    have haligned := Nat.le_antisymm hrow (alignedRow_ge (w * c))
    rw [haligned] at hint
    exact ⟨(alignedRow_eq_iff _).mp haligned, hint⟩
  · intro ⟨h4, hint⟩
    have haligned := (alignedRow_eq_iff _).mpr h4
    have hfits : alignedRow (w * c) * h ≤ frame.getFrame.length := by rw [haligned, hpacked]
    obtain ⟨img, himg⟩ := importImage_isSome cv hw hh hc (by rwa [haligned]) hfits
    obtain ⟨hstep, _, _, hdata, _⟩ := importImage_eq_some himg
    rw [haligned] at hstep
    rw [haligned, ← hpacked, List.take_length] at hdata
    refine ⟨img, himg, ?_⟩
    intro x y k hx hy hk
    have hindex : y * (w * c) + x * c + k = (y * w + x) * c + k := by ring
    have hinside : (y * w + x) * c + k < frame.getFrame.length := by
      have hpixel := pixel_lt hy hx
      have hsample := pixel_lt hpixel hk
      rw [hpacked]
      calc (y * w + x) * c + k = c * (w * y + x) + k := by ring
        _ < c * (w * h) := hsample
        _ = w * c * h := by ring
    refine ⟨frame.getFrame[(y * w + x) * c + k], List.getElem?_eq_getElem hinside, ?_⟩
    rw [hstep, hindex, hdata]
    exact List.getElem?_eq_getElem hinside

theorem four_by_two_imported :
    ImportedRight documentedCV
      (VideoFrame.holding (VideoFrame.encoded 4 2 3 (zeros 24)) 36) :=
  (importedRight_iff documentedCV .lp64 (VideoFrame.encoded 4 2 3 (zeros 24)) 36 _ (by decide) rfl
    (by decide)).mpr (by decide)

/-- Rows of 7 bytes are padded to 8: the copy leaves the payload. -/
theorem seven_byte_rows_leave_payload :
    ∃ frame, VideoFrame.fromBuffer .lp64 (VideoFrame.encoded 7 4 1 (zeros 28)) 40 = some frame ∧
      frame.isOK = true ∧ frame.getFrame.length = frame.pixelBytes ∧
      importFrame documentedCV frame = none ∧ ¬ ImportedRight documentedCV frame := by
  have hnone : importFrame documentedCV
      (VideoFrame.holding (VideoFrame.encoded 7 4 1 (zeros 28)) 40) = none := by
    rw [Option.eq_none_iff_forall_ne_some]
    intro img himg
    obtain ⟨_, _, hinside, _⟩ := importImage_eq_some himg
    exact absurd hinside (by decide)
  refine ⟨VideoFrame.holding (VideoFrame.encoded 7 4 1 (zeros 28)) 40, by decide, rfl, by decide,
    hnone, ?_⟩
  intro ⟨img, himg, _⟩
  rw [hnone] at himg
  exact Option.some_ne_none img himg.symm

end KinectHelper
