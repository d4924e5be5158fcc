import KinectHelper.KinectTypes.VideoFrame

namespace KinectHelper.VideoFrame

/-- The three header words are put together from the bytes they were split from. -/
theorem encoded_header {buffer : Block} (h : 12 ≤ buffer.length) :
    encoded (header buffer).width (header buffer).height (header buffer).nchannels
      (buffer.drop 12) = buffer := by
  have hword (off : Nat) (hoff : off + 4 ≤ buffer.length) :
      wordBytes ((loadWord buffer off).getD 0) = (buffer.drop off).take 4 := by
    cases hload : loadWord buffer off with
    | none => simp [loadWord, loadBytes, hoff] at hload
    | some w => exact (wordBytes_of_loadWord hload).2
  have hsplit (off : Nat) :
      (buffer.drop off).take 4 ++ buffer.drop (off + 4) = buffer.drop off := by
    rw [← List.drop_drop, List.take_append_drop]
  simp only [encoded, header, List.append_assoc]
  rw [hword 0 (by omega), hword 4 (by omega), hword 8 (by omega), hsplit 8, hsplit 4, hsplit 0,
    List.drop_zero]

theorem encoded_take {buffer : Block} {n : Nat} (hn : 12 ≤ n) (h : n ≤ buffer.length) :
    encoded (header buffer).width (header buffer).height (header buffer).nchannels
      ((buffer.take n).drop 12) = buffer.take n := by
  have hwords (off : Nat) (hoff : off + 4 ≤ n) :
      loadWord (buffer.take n) off = loadWord buffer off := by
    have htake : ((buffer.take n).drop off).take 4 = (buffer.drop off).take 4 := by
      rw [List.drop_take, List.take_take, Nat.min_eq_left (by omega)]
    have hlen : (buffer.take n).length = n := by simp [h]
    rw [loadWord, loadWord, loadBytes, loadBytes, htake, hlen, if_pos hoff,
      if_pos (hoff.trans h)]
  have hheader : header (buffer.take n) = header buffer := by
    rw [header, header, hwords 0 (by omega), hwords 4 (by omega), hwords 8 (by omega)]
  have hall := @encoded_header (buffer.take n) (by simp [hn, h.trans' hn])
  rwa [hheader] at hall

section Accepted

variable {buffer : Block} {bufsize : UInt32} (hlt : 12 < bufsize.toNat)
  (hlen : bufsize.toNat ≤ buffer.length)
  (hn : bufsize.toNat = (header buffer).pixelBytes % 2^32 + 12)

include hlen in
theorem holding_getFrame_length :
    (holding buffer bufsize).getFrame.length = bufsize.toNat - 12 := by
  have hframe : (holding buffer bufsize).getFrame = (buffer.take bufsize.toNat).drop 12 := rfl
  rw [hframe, List.length_drop, List.length_take, Nat.min_eq_left hlen]

include hn in
theorem holding_getFrameSize :
    (holding buffer bufsize).getFrameSize.toNat = bufsize.toNat - 12 := by
  have hp := (holding buffer bufsize).getFrameSize_toNat
  change _ = (header buffer).pixelBytes % 2^32 at hp
  omega

include hn in
/-- The construction allocates `bufsize` bytes and reads those of the payload. -/
theorem fromData_header_eq_some_iff (data : Block) (e : VideoFrame) :
    fromData (header buffer).width (header buffer).height (header buffer).nchannels data =
        some e ↔
      bufsize.toNat - 12 ≤ data.length ∧
        e = ⟨(header buffer).width, (header buffer).height, (header buffer).nchannels,
          some (encoded (header buffer).width (header buffer).height (header buffer).nchannels
            (data.take (bufsize.toNat - 12))), some sizeofHeader⟩ := by
  have hproduct : (header buffer).width.toNat * (header buffer).height.toNat *
      (header buffer).nchannels.toNat % 2^32 = bufsize.toNat - 12 := by
    change (header buffer).pixelBytes % 2^32 = _
    omega
  have hblock := fromData_eq_some_iff (header buffer).width (header buffer).height
    (header buffer).nchannels data e
  simp only [hproduct] at hblock
  have hbound := bufsize.toNat_lt
  have hfits : bufsize.toNat - 12 + 12 < 2^32 := by omega
  exact hblock.trans (and_iff_right hfits)

include hlt hlen in
theorem encoded_payload :
    encoded (header buffer).width (header buffer).height (header buffer).nchannels
      ((holding buffer bufsize).getFrame.take (bufsize.toNat - 12)) =
        buffer.take bufsize.toNat := by
  rw [← holding_getFrame_length hlen, List.take_length]
  exact encoded_take hlt.le hlen

end Accepted

/-- Encoding undoes decoding on every accepted buffer: the new block has `bufsize` bytes, the
construction reads exactly the payload, whatever the data, and the raw bytes are the old ones. -/
theorem reencode_accepted (abi : Abi) (buffer : Block) (bufsize : UInt32) (f : VideoFrame)
    (hf : fromBuffer abi buffer bufsize = some f) (hok : f.isOK = true) :
    f.getFrameSize + getHeaderSize = bufsize ∧
      f.getFrameSize.toNat = bufsize.toNat - 12 ∧ f.getFrame.length = bufsize.toNat - 12 ∧
      (∀ data e, fromData f.width f.height f.nchannels data = some e ↔
        bufsize.toNat - 12 ≤ data.length ∧
          e = ⟨f.width, f.height, f.nchannels,
            some (encoded f.width f.height f.nchannels (data.take (bufsize.toNat - 12))),
            some sizeofHeader⟩) ∧
      ∃ e, fromData f.width f.height f.nchannels f.getFrame = some e ∧ e.isOK = true ∧
        e.rawData = some (buffer.take bufsize.toNat) ∧ e.rawData = f.rawData := by
  obtain ⟨hsz, hlen, hs, hholding⟩ := (accepted_iff abi buffer bufsize f).mp ⟨hf, hok⟩
  subst hholding
  have hn := accepted_size hsz hs
  have hlt : 12 < bufsize.toNat := by
    have h20 := (sizeofVideoFrame_bounds abi).1
    omega
  have hpayload := holding_getFrame_length hlen
  refine ⟨hs.symm, holding_getFrameSize hn, hpayload, fromData_header_eq_some_iff hn, ?_⟩
  refine ⟨_, (fromData_header_eq_some_iff hn _ _).mpr ⟨hpayload.ge, rfl⟩, rfl, ?_⟩
  rw [encoded_payload hlt hlen]
  exact ⟨rfl, rfl⟩

/-- A buffer with a header whose product wraps to 32. -/
def wrappedBuffer : Block := encoded 134217729 32 1 (zeros 32)

theorem reencode_wrapped :
    ∃ f, fromBuffer .lp64 wrappedBuffer 44 = some f ∧
      f.getFrameSize + getHeaderSize = 44 ∧
      f.getFrameSize.toNat = 32 ∧ f.getFrame.length = 32 ∧
      (∀ data e, fromData f.width f.height f.nchannels data = some e ↔
        32 ≤ data.length ∧
          e = ⟨f.width, f.height, f.nchannels,
            some (encoded f.width f.height f.nchannels (data.take 32)), some sizeofHeader⟩) ∧
      ∃ e, fromData f.width f.height f.nchannels f.getFrame = some e ∧ e.isOK = true ∧
        e.rawData = some (wrappedBuffer.take 44) ∧ e.rawData = f.rawData := by
  have hf : fromBuffer .lp64 wrappedBuffer 44 = some (holding wrappedBuffer 44) := by decide
  exact ⟨_, hf, reencode_accepted .lp64 wrappedBuffer 44 _ hf rfl⟩

end KinectHelper.VideoFrame
