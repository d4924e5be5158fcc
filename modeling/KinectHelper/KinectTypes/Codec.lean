import KinectHelper.KinectTypes.VideoFrame

namespace KinectHelper

/-- A picture whose size is computed without wrapping: what the frame format is for. -/
structure Image where
  width : UInt32
  height : UInt32
  nchannels : UInt32
  payload : Block
  payload_length : payload.length = width.toNat * height.toNat * nchannels.toNat
  fits : width.toNat * height.toNat * nchannels.toNat + 12 < 2^32

namespace Image

/-- The bytes on the wire: three header words and the payload. -/
def raw (img : Image) : Block :=
  VideoFrame.encoded img.width img.height img.nchannels img.payload

/-- The frame that holds the picture. -/
def frame (img : Image) : VideoFrame :=
  ⟨img.width, img.height, img.nchannels, some img.raw, some sizeofHeader⟩

theorem raw_length (img : Image) : img.raw.length = img.payload.length + 12 :=
  VideoFrame.encoded_length _ _ _ _

theorem getSize_frame (img : Image) : img.frame.getSize.toNat = img.raw.length := by
  have hp : img.frame.pixelBytes = img.payload.length := img.payload_length.symm
  have hfits := img.fits
  have hlen := img.payload_length
  rw [VideoFrame.getSize_toNat, hp, img.raw_length, Nat.mod_eq_of_lt (by omega)]

theorem getFrame_frame (img : Image) : img.frame.getFrame = img.payload := by
  have hh : (wordBytes img.width ++ wordBytes img.height ++ wordBytes img.nchannels).length =
      sizeofHeader := by simp [sizeofHeader]
  change img.raw.drop sizeofHeader = img.payload
  rw [raw, VideoFrame.encoded, ← hh, List.drop_left]

theorem header_raw (img : Image) :
    VideoFrame.header img.raw = ⟨img.width, img.height, img.nchannels, none, none⟩ := by
  have h0 := loadWord_middle [] (wordBytes img.height ++ wordBytes img.nchannels ++ img.payload)
    img.width
  have h4 := loadWord_middle (wordBytes img.width) (wordBytes img.nchannels ++ img.payload)
    img.height
  have h8 := loadWord_middle (wordBytes img.width ++ wordBytes img.height) img.payload
    img.nchannels
  simp only [List.nil_append, List.length_nil, List.append_assoc, List.length_append,
    wordBytes_length, Nat.reduceAdd] at h0 h4 h8
  simp only [VideoFrame.header, raw, VideoFrame.encoded, List.append_assoc, h0, h4, h8,
    Option.getD_some]

theorem fromData_image (img : Image) :
    VideoFrame.fromData img.width img.height img.nchannels img.payload = some img.frame := by
  have hfits := img.fits
  have hmod : img.width.toNat * img.height.toNat * img.nchannels.toNat % 2^32 =
      img.payload.length := by
    rw [img.payload_length]
    exact Nat.mod_eq_of_lt (by omega)
  have hlen := img.payload_length
  have h := (VideoFrame.fromData_eq_some_iff img.width img.height img.nchannels img.payload
    img.frame).mpr
  simp only [hmod, List.take_length] at h
  exact h ⟨by omega, le_refl _, rfl⟩

/-- The buffer constructor gives the picture back, unless the buffer is no longer than a
`VideoFrame` object. -/
theorem decodeRaw_image (abi : Abi) (img : Image) :
    VideoFrame.decodeRaw abi img.frame = some (
      if abi.sizeofVideoFrame < img.payload.length + 12 then img.frame
      else ⟨0, 0, 0, none, none⟩) := by
  have hsize := img.getSize_frame
  have hraw := img.raw_length
  change VideoFrame.fromBuffer abi img.raw img.frame.getSize = _
  rw [VideoFrame.fromBuffer_eq abi img.raw img.frame.getSize (by omega), hsize, hraw]
  have hs : img.frame.getSize = (VideoFrame.header img.raw).getSize := by
    rw [img.header_raw]
    rfl
  have hhold : VideoFrame.holding img.raw img.frame.getSize = img.frame := by
    rw [VideoFrame.holding, hsize, List.take_length, img.header_raw]
    rfl
  rw [if_pos hs, hhold]

theorem accepted (abi : Abi) (img : Image) (h : abi.sizeofVideoFrame < img.payload.length + 12) :
    VideoFrame.fromBuffer abi img.raw img.frame.getSize = some img.frame := by
  have hdecoded := img.decodeRaw_image abi
  rwa [if_pos h] at hdecoded

end Image

namespace VideoFrame

/-- Decoding the client's raw buffer gives the picture back if and only if the buffer is
longer than a `VideoFrame` object, the constructor's minimum. -/
theorem decode_encode_iff (abi : Abi) (width height nchannels : UInt32) (data : Block)
    (hfits : width.toNat * height.toNat * nchannels.toNat + 12 < 2^32)
    (hdata : data.length = width.toNat * height.toNat * nchannels.toNat) :
    (∃ f g, fromData width height nchannels data = some f ∧ decodeRaw abi f = some g ∧
      g.isOK = true ∧ g.width = width ∧ g.height = height ∧ g.nchannels = nchannels ∧
      g.getFrame = data) ↔
    abi.sizeofVideoFrame < width.toNat * height.toNat * nchannels.toNat + 12 := by
  let img : Image := ⟨width, height, nchannels, data, hdata, hfits⟩
  have henc : fromData width height nchannels data = some img.frame := img.fromData_image
  have hdec := img.decodeRaw_image abi
  have hlen : img.payload.length = width.toNat * height.toNat * nchannels.toNat := hdata
  rw [hlen] at hdec
  constructor
  · intro ⟨f, g, hf, hg, hok, _⟩
    rw [henc] at hf
    obtain rfl := Option.some.inj hf
    rw [hdec] at hg
    obtain rfl := Option.some.inj hg
    by_contra hsmall
    simp [hsmall, isOK] at hok
  · intro hbig
    rw [if_pos hbig] at hdec
    exact ⟨img.frame, img.frame, henc, hdec, rfl, rfl, rfl, rfl, img.getFrame_frame⟩

theorem decode_encode_four_by_two :
    ∃ f g, fromData 4 2 3 (zeros 24) = some f ∧ decodeRaw .lp64 f = some g ∧
      g.isOK = true ∧ g.width = 4 ∧ g.height = 2 ∧ g.nchannels = 3 ∧ g.getFrame = zeros 24 :=
  (decode_encode_iff .lp64 4 2 3 (zeros 24) (by decide) (by decide)).mpr (by decide)

/-- One pixel of one channel is encoded, and refused by the decoder of either data model. -/
theorem single_pixel_refused :
    ∃ f, fromData 1 1 1 [7] = some f ∧ f.isOK = true ∧
      (∃ g, decodeRaw .ilp32 f = some g ∧ g.isOK = false) ∧
      (∃ g, decodeRaw .lp64 f = some g ∧ g.isOK = false) :=
  ⟨⟨1, 1, 1, some (encoded 1 1 1 [7]), some sizeofHeader⟩, by decide, rfl,
    ⟨⟨0, 0, 0, none, none⟩, by decide, rfl⟩, ⟨⟨0, 0, 0, none, none⟩, by decide, rfl⟩⟩

end VideoFrame

end KinectHelper
