import KinectHelper.Framework.Memory

namespace KinectHelper

/-- `sizeof(m_header)`: three 32-bit words. -/
def sizeofHeader : Nat := 3 * 4

/-- `sizeof(VideoFrame)`: the header union, padded to the alignment of a pointer,
and the two pointers `m_rawData` and `m_data`. -/
def Abi.sizeofVideoFrame (abi : Abi) : Nat :=
  (sizeofHeader + abi.sizeofPointer - 1) / abi.sizeofPointer * abi.sizeofPointer +
    2 * abi.sizeofPointer

/-- `rawData` is the owned block or NULL; `data` points into that block. -/
structure VideoFrame where
  width : UInt32
  height : UInt32
  nchannels : UInt32
  rawData : Option Block
  data : Option Nat
  deriving DecidableEq

namespace VideoFrame

def getHeaderSize : UInt32 := UInt32.ofNat sizeofHeader

def getFrameSize (f : VideoFrame) : UInt32 := f.width * f.height * f.nchannels

def getSize (f : VideoFrame) : UInt32 := f.getFrameSize + getHeaderSize

def isOK (f : VideoFrame) : Bool := f.rawData.isSome && f.data.isSome

/-- The bytes from `GetFrame()` to the end of the block. -/
def getFrame (f : VideoFrame) : Block :=
  match f.rawData, f.data with
  | some raw, some off => raw.drop off
  | _, _ => []

/-- `VideoFrame(buffer, bufsize)`; `none` is an access outside the buffer. -/
def fromBuffer (abi : Abi) (buffer : Block) (bufsize : UInt32) : Option VideoFrame :=
  if abi.sizeofVideoFrame < bufsize.toNat then do
    let width ← loadWord buffer 0
    let height ← loadWord buffer 4
    let nchannels ← loadWord buffer 8
    let f : VideoFrame := ⟨width, height, nchannels, none, none⟩
    if bufsize = f.getSize then do
      let bytes ← loadBytes buffer 0 bufsize.toNat
      let raw ← storeBytes (zeros bufsize.toNat) 0 bytes
      pure { f with rawData := some raw, data := some getHeaderSize.toNat }
    else pure f
  else pure ⟨0, 0, 0, none, none⟩

/-- `VideoFrame(width, height, nchannels, data)`; `none` is an access outside the
new block or outside `data`. -/
def fromData (width height nchannels : UInt32) (data : Block) : Option VideoFrame := do
  let f : VideoFrame := ⟨width, height, nchannels, none, none⟩
  let sz := f.getFrameSize
  let raw := zeros (sz + getHeaderSize).toNat
  let raw ← storeBytes raw 0 (wordBytes width)
  let raw ← storeBytes raw 4 (wordBytes height)
  let raw ← storeBytes raw 8 (wordBytes nchannels)
  let bytes ← loadBytes data 0 sz.toNat
  let raw ← storeBytes raw getHeaderSize.toNat bytes
  pure { f with rawData := some raw, data := some getHeaderSize.toNat }

/-- `VideoFrame(f.GetRawData(), f.GetSize())`. -/
def decodeRaw (abi : Abi) (f : VideoFrame) : Option VideoFrame :=
  f.rawData.bind fun raw => fromBuffer abi raw f.getSize

def pixelBytes (f : VideoFrame) : Nat := f.width.toNat * f.height.toNat * f.nchannels.toNat

theorem getFrameSize_toNat (f : VideoFrame) : f.getFrameSize.toNat = f.pixelBytes % 2^32 := by
  simp [getFrameSize, pixelBytes, UInt32.toNat_mul, Nat.mod_mul_mod]

theorem getSize_toNat (f : VideoFrame) : f.getSize.toNat = (f.pixelBytes + 12) % 2^32 := by
  have hh : getHeaderSize.toNat = 12 := rfl
  rw [getSize, UInt32.toNat_add, f.getFrameSize_toNat, hh, Nat.mod_add_mod]

/-- The header words of a buffer as a frame without data. -/
def header (buffer : Block) : VideoFrame :=
  ⟨(loadWord buffer 0).getD 0, (loadWord buffer 4).getD 0, (loadWord buffer 8).getD 0, none, none⟩

/-- The frame that holds a copy of the first `bufsize` bytes. -/
def holding (buffer : Block) (bufsize : UInt32) : VideoFrame :=
  { header buffer with
    rawData := some (buffer.take bufsize.toNat)
    data := some sizeofHeader }

private theorem loadWord_header {buffer : Block} {off : Nat} (h : off + 4 ≤ buffer.length) :
    loadWord buffer off = some ((loadWord buffer off).getD 0) := by
  simp [loadWord, loadBytes, h]

theorem sizeofVideoFrame_bounds (abi : Abi) :
    20 ≤ abi.sizeofVideoFrame ∧ abi.sizeofVideoFrame ≤ 32 := by
  cases abi <;> decide

theorem fromBuffer_eq (abi : Abi) (buffer : Block) (bufsize : UInt32)
    (hlen : bufsize.toNat ≤ buffer.length) :
    fromBuffer abi buffer bufsize = some (
      if abi.sizeofVideoFrame < bufsize.toNat then
        if bufsize = (header buffer).getSize then holding buffer bufsize else header buffer
      else ⟨0, 0, 0, none, none⟩) := by
  unfold fromBuffer
  by_cases hsz : abi.sizeofVideoFrame < bufsize.toNat
  · have h20 := (sizeofVideoFrame_bounds abi).1
    have hw := @loadWord_header buffer 0 (by omega)
    have hh := @loadWord_header buffer 4 (by omega)
    have hc := @loadWord_header buffer 8 (by omega)
    have hload : loadBytes buffer 0 bufsize.toNat = some (buffer.take bufsize.toNat) := by
      simp [loadBytes, hlen]
    have hstore : storeBytes (zeros bufsize.toNat) 0 (buffer.take bufsize.toNat) =
        some (buffer.take bufsize.toNat) := by
      have hz := storeBytes_middle [] (zeros bufsize.toNat) [] (buffer.take bufsize.toNat)
        (by simp [hlen])
      simpa using hz
    rw [if_pos hsz, if_pos hsz, hw, hh, hc]
    change (if bufsize = (header buffer).getSize then _ else _) = _
    split_ifs with hs
    · rw [hload]
      change (storeBytes _ 0 _).bind _ = _
      rw [hstore]
      rfl
    · rfl
  · rw [if_neg hsz, if_neg hsz]
    rfl

theorem fromBuffer_short {abi : Abi} {buffer : Block} {bufsize : UInt32} {f : VideoFrame}
    (hf : fromBuffer abi buffer bufsize = some f) (hok : f.isOK = true) :
    bufsize.toNat ≤ buffer.length := by
  unfold fromBuffer at hf
  split_ifs at hf with hsz
  · simp only [Option.bind_eq_bind, Option.bind_eq_some_iff] at hf
    obtain ⟨w, _, h, _, c, _, hf⟩ := hf
    split_ifs at hf with hs
    · simp only [Option.bind_eq_some_iff] at hf
      obtain ⟨bytes, hb, _⟩ := hf
      have := ((loadBytes_eq_some_iff _ _ _ _).mp hb).1
      omega
    · obtain rfl := Option.some.inj hf
      simp [isOK] at hok
  · obtain rfl := Option.some.inj hf
    simp [isOK] at hok

/-- Exactly the buffers the constructor accepts, and the frame it makes of them. -/
theorem accepted_iff (abi : Abi) (buffer : Block) (bufsize : UInt32) (f : VideoFrame) :
    fromBuffer abi buffer bufsize = some f ∧ f.isOK = true ↔
      abi.sizeofVideoFrame < bufsize.toNat ∧ bufsize.toNat ≤ buffer.length ∧
        bufsize = (header buffer).getSize ∧ f = holding buffer bufsize := by
  constructor
  · intro ⟨hf, hok⟩
    have hlen := fromBuffer_short hf hok
    rw [fromBuffer_eq abi buffer bufsize hlen] at hf
    have hf := Option.some.inj hf
    split_ifs at hf with hsz hs
    · exact ⟨hsz, hlen, hs, hf.symm⟩
    · subst hf; simp [isOK, header] at hok
    · subst hf; simp [isOK] at hok
  · intro ⟨hsz, hlen, hs, hframe⟩
    subst hframe
    rw [fromBuffer_eq abi buffer bufsize hlen, if_pos hsz, if_pos hs]
    exact ⟨rfl, rfl⟩

/-- The raw block the field constructor fills. -/
def encoded (width height nchannels : UInt32) (payload : Block) : Block :=
  wordBytes width ++ wordBytes height ++ wordBytes nchannels ++ payload

theorem encoded_length (width height nchannels : UInt32) (payload : Block) :
    (encoded width height nchannels payload).length = payload.length + 12 := by
  simp only [encoded, List.length_append, wordBytes_length]
  omega

private theorem zeros_add (m n : Nat) : zeros (m + n) = zeros m ++ zeros n :=
  List.replicate_add m n 0

private theorem store_fields (width height nchannels : UInt32) (bytes : List UInt8) :
    (do
      let raw ← storeBytes (zeros (bytes.length + 12)) 0 (wordBytes width)
      let raw ← storeBytes raw 4 (wordBytes height)
      let raw ← storeBytes raw 8 (wordBytes nchannels)
      storeBytes raw 12 bytes) = some (encoded width height nchannels bytes) := by
  have hz : zeros (bytes.length + 12) =
      [] ++ zeros 4 ++ (zeros 4 ++ zeros 4 ++ zeros bytes.length) := by
    rw [Nat.add_comm, show 12 = 4 + 4 + 4 from rfl]
    simp only [zeros_add, List.nil_append, List.append_assoc]
  have h0 := storeBytes_middle [] (zeros 4) (zeros 4 ++ zeros 4 ++ zeros bytes.length)
    (wordBytes width) (by simp)
  have h4 := storeBytes_middle (wordBytes width) (zeros 4) (zeros 4 ++ zeros bytes.length)
    (wordBytes height) (by simp)
  have h8 := storeBytes_middle (wordBytes width ++ wordBytes height) (zeros 4)
    (zeros bytes.length) (wordBytes nchannels) (by simp)
  have h12 := storeBytes_middle (wordBytes width ++ wordBytes height ++ wordBytes nchannels)
    (zeros bytes.length) [] bytes (by simp)
  simp only [List.nil_append, List.length_nil, List.append_assoc, List.length_append,
    wordBytes_length, List.append_nil, Nat.reduceAdd] at h0 h4 h8 h12
  simp only [hz, List.nil_append, List.append_assoc, Option.bind_eq_bind, h0, Option.bind_some,
    h4, h8, h12, encoded]

/-- When the field constructor stays inside its blocks, and what it builds then. -/
theorem fromData_eq_some_iff (width height nchannels : UInt32) (data : Block) (f : VideoFrame) :
    let p := width.toNat * height.toNat * nchannels.toNat % 2^32
    fromData width height nchannels data = some f ↔
      p + 12 < 2^32 ∧ p ≤ data.length ∧
        f = ⟨width, height, nchannels,
          some (encoded width height nchannels (data.take p)), some sizeofHeader⟩ := by
  intro p
  let f0 : VideoFrame := ⟨width, height, nchannels, none, none⟩
  have hp : f0.getFrameSize.toNat = p := f0.getFrameSize_toNat
  have hlt : p < 2^32 := Nat.mod_lt _ (Nat.two_pow_pos 32)
  have hblock : (f0.getFrameSize + getHeaderSize).toNat = (p + 12) % 2^32 := by
    rw [UInt32.toNat_add, hp]
    rfl
  have hdef : fromData width height nchannels data = (do
      let raw ← storeBytes (zeros ((p + 12) % 2^32)) 0 (wordBytes width)
      let raw ← storeBytes raw 4 (wordBytes height)
      let raw ← storeBytes raw 8 (wordBytes nchannels)
      let bytes ← loadBytes data 0 p
      let raw ← storeBytes raw 12 bytes
      pure ⟨width, height, nchannels, some raw, some sizeofHeader⟩) := by
    rw [← hblock, ← hp]
    rfl
  rw [hdef]
  by_cases hfit : p + 12 < 2^32
  · rw [Nat.mod_eq_of_lt hfit]
    by_cases hdata : p ≤ data.length
    · have hload : loadBytes data 0 p = some (data.take p) := by simp [loadBytes, hdata]
      have hlen : (data.take p).length = p := by simp [hdata]
      have hstore := store_fields width height nchannels (data.take p)
      rw [hlen] at hstore
      simp only [Option.bind_eq_bind, Option.bind_eq_some_iff] at hstore
      obtain ⟨r0, h0, r4, h4, r8, h8, h12⟩ := hstore
      simp only [Option.bind_eq_bind, h0, h4, h8, hload, h12, Option.bind_some,
        Option.pure_def, Option.some.injEq, hfit, hdata, true_and]
      exact eq_comm
    · constructor
      · intro h
        simp only [Option.bind_eq_bind, Option.bind_eq_some_iff] at h
        obtain ⟨_, _, _, _, _, _, bytes, hb, _⟩ := h
        have := ((loadBytes_eq_some_iff _ _ _ _).mp hb).1
        omega
      · intro hinside
        exact absurd hinside.2.1 hdata
  · -- the allocation wrapped: fewer than twelve bytes for the three header words
    constructor
    · intro h
      simp only [Option.bind_eq_bind, Option.bind_eq_some_iff] at h
      obtain ⟨r0, h0, r4, h4, r8, h8, _⟩ := h
      have hroom := (storeBytes_isSome_iff r4 8 (wordBytes nchannels)).mp (by simp [h8])
      have hl4 := storeBytes_length h4
      have hl0 := storeBytes_length h0
      simp only [wordBytes_length, zeros_length] at hroom hl0
      omega
    · intro hinside
      exact absurd hinside.1 hfit

/-- The block holds the header and every byte of payload the fields describe, with no
reduction modulo 2^32. -/
def ExactSize (f : VideoFrame) : Prop :=
  ∃ raw, f.rawData = some raw ∧ sizeofHeader + f.pixelBytes = raw.length ∧
    f.getFrame.length = f.pixelBytes

private theorem exactSize_of_block {f : VideoFrame} {raw : Block} (hraw : f.rawData = some raw)
    (hdata : f.data = some sizeofHeader)
    (hlen : raw.length = f.pixelBytes % 2^32 + 12) :
    f.ExactSize ↔ f.pixelBytes < 2^32 := by
  have hs : sizeofHeader = 12 := rfl
  have hframe : f.getFrame.length = raw.length - 12 := by simp [getFrame, hraw, hdata, hs]
  constructor
  · intro ⟨r, hr, hsize, _⟩
    rw [hraw] at hr
    obtain rfl := Option.some.inj hr
    have := Nat.mod_lt f.pixelBytes (Nat.two_pow_pos 32)
    omega
  · intro hlt
    rw [Nat.mod_eq_of_lt hlt] at hlen
    exact ⟨raw, hraw, by omega, by omega⟩

theorem accepted_size {abi : Abi} {buffer : Block} {bufsize : UInt32}
    (hsz : abi.sizeofVideoFrame < bufsize.toNat)
    (hs : bufsize = (header buffer).getSize) :
    bufsize.toNat = (header buffer).pixelBytes % 2^32 + 12 := by
  have h20 := (sizeofVideoFrame_bounds abi).1
  have hn := (header buffer).getSize_toNat
  rw [← hs] at hn
  omega

theorem accepted_payload {abi : Abi} {buffer : Block} {bufsize : UInt32} {f : VideoFrame}
    (hf : fromBuffer abi buffer bufsize = some f) (hok : f.isOK = true) :
    f.getFrame.length = f.pixelBytes % 2^32 ∧ f.getFrame.length + 12 < 2^32 ∧
      abi.sizeofVideoFrame < f.getFrame.length + 12 := by
  obtain ⟨hsz, hlen, hs, rfl⟩ := (accepted_iff abi buffer bufsize f).mp ⟨hf, hok⟩
  have hn := accepted_size hsz hs
  have hlt := bufsize.toNat_lt
  have hframe : (holding buffer bufsize).getFrame.length = bufsize.toNat - 12 := by
    simp [getFrame, holding, sizeofHeader, hlen]
  have hp : (holding buffer bufsize).pixelBytes = (header buffer).pixelBytes := rfl
  rw [hframe, hp]
  omega

/-- An accepted frame has a pixel. -/
theorem accepted_pos {abi : Abi} {buffer : Block} {bufsize : UInt32} {f : VideoFrame}
    (hf : fromBuffer abi buffer bufsize = some f) (hok : f.isOK = true) :
    0 < f.width.toNat ∧ 0 < f.height.toNat ∧ 0 < f.nchannels.toNat := by
  obtain ⟨hlen, _, hmin⟩ := accepted_payload hf hok
  have h20 := (sizeofVideoFrame_bounds abi).1
  have hbytes : f.pixelBytes ≠ 0 := by
    intro h0
    rw [h0, Nat.zero_mod] at hlen
    omega
  obtain ⟨hwh, hc⟩ := Nat.mul_ne_zero_iff.mp hbytes
  obtain ⟨hw, hh⟩ := Nat.mul_ne_zero_iff.mp hwh
  omega

/-- Both constructors keep the payload exact if and only if the size computation does
not wrap on an input they take. -/
theorem exactSize_iff (abi : Abi) (buffer : Block) (bufsize width height nchannels : UInt32)
    (data : Block) :
    ((∀ f, fromBuffer abi buffer bufsize = some f → f.isOK = true → f.ExactSize) ↔
      (abi.sizeofVideoFrame < bufsize.toNat → bufsize.toNat ≤ buffer.length →
        bufsize = (header buffer).getSize → (header buffer).pixelBytes + 12 < 2^32)) ∧
    ((∀ f, fromData width height nchannels data = some f → f.isOK = true → f.ExactSize) ↔
      (width.toNat * height.toNat * nchannels.toNat % 2^32 + 12 < 2^32 →
        width.toNat * height.toNat * nchannels.toNat % 2^32 ≤ data.length →
        width.toNat * height.toNat * nchannels.toNat + 12 < 2^32)) := by
  constructor
  · have hexact (hsz : abi.sizeofVideoFrame < bufsize.toNat) (hlen : bufsize.toNat ≤ buffer.length)
        (hs : bufsize = (header buffer).getSize) :
        (holding buffer bufsize).ExactSize ↔ (header buffer).pixelBytes + 12 < 2^32 := by
      have hn := accepted_size hsz hs
      have hlt := bufsize.toNat_lt
      have h := @exactSize_of_block (holding buffer bufsize) (buffer.take bufsize.toNat) rfl rfl (by
        rw [List.length_take, Nat.min_eq_left hlen]
        exact hn)
      rw [h]
      change (header buffer).pixelBytes < 2^32 ↔ _
      omega
    constructor
    · intro h hsz hlen hs
      obtain ⟨hf, hok⟩ := (accepted_iff abi buffer bufsize _).mpr ⟨hsz, hlen, hs, rfl⟩
      exact (hexact hsz hlen hs).mp (h _ hf hok)
    · intro h f hf hok
      obtain ⟨hsz, hlen, hs, rfl⟩ := (accepted_iff abi buffer bufsize f).mp ⟨hf, hok⟩
      exact (hexact hsz hlen hs).mpr (h hsz hlen hs)
  · let p := width.toNat * height.toNat * nchannels.toNat
    let f : VideoFrame := ⟨width, height, nchannels,
      some (encoded width height nchannels (data.take (p % 2^32))), some sizeofHeader⟩
    have hexact (hfit : p % 2^32 + 12 < 2^32) (hdata : p % 2^32 ≤ data.length) :
        f.ExactSize ↔ p + 12 < 2^32 := by
      have h := exactSize_of_block (f := f) rfl rfl (by
        rw [encoded_length, List.length_take, Nat.min_eq_left hdata]
        rfl)
      rw [h]
      change p < 2^32 ↔ _
      omega
    constructor
    · intro h hfit hdata
      exact (hexact hfit hdata).mp
        (h f ((fromData_eq_some_iff width height nchannels data f).mpr ⟨hfit, hdata, rfl⟩) rfl)
    · intro h g hg _
      obtain ⟨hfit, hdata, rfl⟩ := (fromData_eq_some_iff width height nchannels data g).mp hg
      exact (hexact hfit hdata).mpr (h hfit hdata)

/-- A 44-byte body whose header announces 2^32 + 32 bytes of pixels is accepted. -/
theorem wrapped_header_accepted :
    ∃ f, fromBuffer .lp64 (encoded 134217729 32 1 (zeros 32)) 44 = some f ∧ f.isOK = true ∧
      ¬ f.ExactSize := by
  refine ⟨holding (encoded 134217729 32 1 (zeros 32)) 44, by decide, rfl, ?_⟩
  intro ⟨raw, hraw, hsize, _⟩
  obtain rfl := Option.some.inj hraw
  revert hsize
  decide

end VideoFrame

end KinectHelper
