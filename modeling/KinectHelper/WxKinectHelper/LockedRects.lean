import KinectHelper.WxKinectHelper.ReadDepth

namespace KinectHelper.KinectGrabberMSW

/-- A byte behind a pointer that need not stay in its block. -/
def loadByteAt (bits : Block) (off : Int) : Option UInt8 :=
  if 0 ≤ off then bits[off.toNat]? else none

/-- The body of the inner loop; an `RGBQUAD` starts with its blue byte. -/
def readColorPixel (bits : Block) (pBuffer : Int) (w y x : Nat) (data : Block) : Option Block := do
  let quad := pBuffer + 4 * x
  let offset ← checkedInt ((w * y + x) * 3)
  let last ← checkedInt (offset + 2)
  let rgbRed ← loadByteAt bits (quad + 2)
  let data ← storeBytes data (offset + 0) [rgbRed]
  let rgbGreen ← loadByteAt bits (quad + 1)
  let data ← storeBytes data (offset + 1) [rgbGreen]
  let rgbBlue ← loadByteAt bits quad
  storeBytes data last [rgbBlue]

/-- The body of the outer loop. The state is `data` and the offset of `pBuffer`. -/
def readColorRow (lockedRect : LockedRect) (w y : Nat) (s : Block × Int) : Option (Block × Int) :=
  (forRange w (readColorPixel lockedRect.bits s.2 w y) s.1).map fun data =>
    (data, s.2 + lockedRect.pitch)

def readColorLockedRect (lockedRect : LockedRect) (w h : Nat) (data : Block) : Option Block :=
  if lockedRect.pitch ≠ 0 then
    (forRange h (readColorRow lockedRect w) (data, 0)).map Prod.fst
  else some data

/-- The three channels that the bytes of a depth sample become. -/
def depthChannels (sample : Block) : Block := depthBytes (UInt16.ofNat (leValue sample))

/-- The three channels that the bytes of an `RGBQUAD` become. -/
def colorChannels (quad : Block) : Block := [quad.getD 2 0, quad.getD 1 0, quad.getD 0 0]

/-- Pixel `(x, y)` is computed from the sample at `y * pitch + x * size`, and only the bytes of
the pixels are written. -/
def HonoursPitch (read : LockedRect → Nat → Nat → Block → Option Block) (size : Nat)
    (channels : Block → Block) (w h pitch : Nat) : Prop :=
  ∀ bits data : Block, bits.length = h * pitch → 3 * (w * h) ≤ data.length →
    ∃ out, read ⟨pitch, bits⟩ w h data = some out ∧
      (∀ y x, y < h → x < w → ∃ sample, loadBytes bits (y * pitch + x * size) size = some sample ∧
        loadBytes out (3 * (w * y + x)) 3 = some (channels sample)) ∧
      out.drop (3 * (w * h)) = data.drop (3 * (w * h))

section Filled

variable {f : Nat → Block} {n : Nat} {data b : Block}

def Filled (f : Nat → Block) (n : Nat) (data : Block) (k : Nat) (b : Block) : Prop :=
  b = ((List.range n).take k).flatMap f ++ data.drop (3 * k)

theorem filled_zero (f : Nat → Block) (n : Nat) (data : Block) : Filled f n data 0 data := by
  simp [Filled]

theorem Filled.store {k : Nat} (h : Filled f n data k b) (hf : ∀ k, (f k).length = 3)
    (hdata : 3 * n ≤ data.length) (hk : k < n) :
    ∃ c, storeBytes b (3 * k) (f k) = some c ∧ Filled f n data (k + 1) c := by
  have hk' : k < (List.range n).length := by rwa [List.length_range]
  have hstore := storeBytes_record f 3 hf (List.range n) data hk' (by rwa [List.length_range])
  rw [List.getElem_range] at hstore
  unfold Filled at h
  exact ⟨_, h ▸ hstore, rfl⟩

theorem Filled.pixel (h : Filled f n data n b) (hf : ∀ k, (f k).length = 3) {k : Nat}
    (hk : k < n) : loadBytes b (3 * k) 3 = some (f k) := by
  have hk' : k < (List.range n).length := by rwa [List.length_range]
  obtain ⟨hbytes, hpre⟩ := flatMap_split f 3 hf (List.range n) hk'
  rw [List.getElem_range] at hbytes
  have hall : (List.range n).take n = List.range n :=
    List.take_of_length_le (List.length_range ▸ le_rfl)
  have hload := loadBytes_middle (((List.range n).take k).flatMap f) (f k)
    (((List.range n).drop (k + 1)).flatMap f ++ data.drop (3 * n))
  unfold Filled at h
  rw [hpre, hf, ← List.append_assoc, ← hbytes] at hload
  rwa [h, hall]

theorem Filled.rest (h : Filled f n data n b) (hf : ∀ k, (f k).length = 3) :
    b.drop (3 * n) = data.drop (3 * n) := by
  have hall : (List.range n).take n = List.range n :=
    List.take_of_length_le (List.length_range ▸ le_rfl)
  have hlen : ((List.range n).flatMap f).length = 3 * n := by
    rw [flatMap_length f 3 hf, List.length_range]
  unfold Filled at h
  rw [h, hall, ← hlen, List.drop_left, hlen]

end Filled

section Depth

variable {w h pitch : Nat} {bits data : Block}

/-- What pixel number `k` becomes when the samples are taken without gaps. -/
def depthRun (bits : Block) (k : Nat) : Block := depthChannels ((bits.drop (2 * k)).take 2)

theorem depthRun_length (bits : Block) (k : Nat) : (depthRun bits k).length = 3 := rfl

theorem readDepthLockedRect_run (hpitch : pitch ≠ 0) (hbits : 2 * (w * h) ≤ bits.length)
    (hdata : 3 * (w * h) ≤ data.length) (hint : 3 * (w * h) < 2^31) :
    ∃ out, readDepthLockedRect ⟨pitch, bits⟩ w h data = some out ∧
      Filled (depthRun bits) (w * h) data (w * h) out := by
  have hloop := @forPixels_rule _ w h (readDepthPixel bits w) (data, 0)
    (fun k s => Filled (depthRun bits) (w * h) data k s.1 ∧ s.2 = 2 * k)
    ⟨filled_zero _ _ data, rfl⟩ ?_
  · obtain ⟨t, ht, hfilled, _⟩ := hloop
    refine ⟨t.1, ?_, hfilled⟩
    have hne : (pitch : Int) ≠ 0 := Int.natCast_ne_zero.mpr hpitch
    rw [readDepthLockedRect, if_pos hne, ht, Option.map_some]
  · intro y x hy hx s hs
    obtain ⟨b, run⟩ := s
    obtain ⟨hfilled, rfl⟩ := hs
    have hk := pixel_lt hy hx
    have hvalue : leValue ((bits.drop (2 * (w * y + x))).take 2) < 2^16 := by
      have hlen : ((bits.drop (2 * (w * y + x))).take 2).length = 2 := by
        rw [List.length_take, List.length_drop]
        omega
      have hlt := leValue_lt ((bits.drop (2 * (w * y + x))).take 2)
      rw [hlen] at hlt
      omega
    have hload : loadHalf bits (2 * (w * y + x)) =
        some (UInt16.ofNat (leValue ((bits.drop (2 * (w * y + x))).take 2))).toNat := by
      rw [loadHalf, loadBytes, if_pos (by omega), Option.map_some, UInt16.toNat_ofNat',
        Nat.mod_eq_of_lt hvalue]
    obtain ⟨c, hc, hnext⟩ := hfilled.store (depthRun_length bits) hdata hk
    refine ⟨(c, 2 * (w * y + x) + 2), ?_, hnext, rfl⟩
    rw [readDepthPixel_eq bits b _ w y x (by omega) hload]
    change (storeBytes b _ (depthRun bits (w * y + x))).map _ = _
    rw [hc, Option.map_some]

theorem samples_le (hrow : 2 * w ≤ pitch) (hbits : bits.length = h * pitch) :
    2 * (w * h) ≤ bits.length := by
  calc 2 * (w * h) = h * (2 * w) := by ring
    _ ≤ h * pitch := Nat.mul_le_mul_left h hrow
    _ = bits.length := hbits.symm

theorem readDepth_honoursPitch (hpitch : pitch ≠ 0) (hrow : 2 * w ≤ pitch)
    (hint : 3 * (w * h) < 2^31) (hpacked : pitch = 2 * w ∨ h ≤ 1) :
    HonoursPitch readDepthLockedRect 2 depthChannels w h pitch := by
  intro bits data hbits hdata
  have hsamples := samples_le hrow hbits
  obtain ⟨out, hout, hfilled⟩ := readDepthLockedRect_run hpitch hsamples hdata hint
  refine ⟨out, hout, ?_, hfilled.rest (depthRun_length bits)⟩
  intro y x hy hx
  have hk := pixel_lt hy hx
  have hoff : y * pitch + x * 2 = 2 * (w * y + x) := by
    rcases hpacked with hrows | hone
    · rw [hrows]
      ring
    · obtain rfl : y = 0 := by omega
      ring
  rw [hoff]
  refine ⟨_, if_pos (by omega), hfilled.pixel (depthRun_length bits) hk⟩

/-- A buffer of zeros but for one byte. -/
def oneByte (n off : Nat) : Block := (zeros n).set off 0xff

theorem oneByte_sample {n off k : Nat} (hk : k + 2 ≤ n) :
    ((oneByte n off).drop k).take 2 =
      [if off = k then 0xff else 0, if off = k + 1 then 0xff else 0] := by
  have hlen : (oneByte n off).length = n := by simp [oneByte]
  apply List.ext_getElem
  · simp only [List.length_take, List.length_drop, hlen, List.length_cons, List.length_nil]
    omega
  · intro i hi hi'
    simp only [List.length_cons, List.length_nil] at hi'
    have hcases : i = 0 ∨ i = 1 := by omega
    rcases hcases with rfl | rfl <;> simp [oneByte, zeros, List.getElem_set]

/-- With padded rows the second row is read from the padding of the first. -/
theorem readDepth_ignores_padding (hrow : 2 * w ≤ pitch) (hw : 0 < w)
    (hint : 3 * (w * h) < 2^31)
    (hhonours : HonoursPitch readDepthLockedRect 2 depthChannels w h pitch) :
    pitch = 2 * w ∨ h ≤ 1 := by
  by_contra hpadded
  rw [not_or] at hpadded
  obtain ⟨hne, hh⟩ := hpadded
  let bits := oneByte (h * pitch) (pitch + 1)
  have hbits : bits.length = h * pitch := by simp [bits, oneByte]
  have htwo : 2 * pitch ≤ h * pitch := Nat.mul_le_mul_right pitch (by omega)
  obtain ⟨out, hout, hpixels, _⟩ := hhonours bits (zeros (3 * (w * h))) hbits (by simp)
  have hpitch : pitch ≠ 0 := by omega
  have hdata : 3 * (w * h) ≤ (zeros (3 * (w * h))).length := by simp
  obtain ⟨out', hout', hfilled⟩ :=
    readDepthLockedRect_run hpitch (samples_le hrow hbits) hdata hint
  obtain rfl : out = out' := Option.some.inj (hout.symm.trans hout')
  obtain ⟨sample, hsample, hpixel⟩ := hpixels 1 0 (by omega) hw
  have hk : w * 1 + 0 < w * h := pixel_lt (by omega) hw
  rw [hfilled.pixel (depthRun_length bits) hk] at hpixel
  have hpadding : depthRun bits (w * 1 + 0) = [0, 0, 0] := by
    rw [depthRun, oneByte_sample (by omega), if_neg (by omega), if_neg (by omega)]
    decide
  have hrow1 : sample = [0, 0xff] := by
    obtain ⟨_, htake⟩ := (loadBytes_eq_some_iff _ _ _ _).mp hsample
    rw [← htake, oneByte_sample (by omega), if_neg (by omega), if_pos (by omega)]
  rw [hpadding, hrow1] at hpixel
  exact absurd hpixel (by decide)

theorem readDepth_honoursPitch_iff (hpitch : pitch ≠ 0) (hrow : 2 * w ≤ pitch) :
    HonoursPitch readDepthLockedRect 2 depthChannels w h pitch ↔
      3 * (w * h) < 2^31 ∧ (pitch = 2 * w ∨ h ≤ 1 ∨ w = 0) := by
  by_cases hempty : w = 0 ∨ h = 0
  · have hzero : w * h = 0 := Nat.mul_eq_zero.mpr hempty
    have hall : HonoursPitch readDepthLockedRect 2 depthChannels w h pitch := by
      intro bits data hbits hdata
      have hsamples := samples_le hrow hbits
      have hint : 3 * (w * h) < 2^31 := by omega
      obtain ⟨out, hout, hfilled⟩ := readDepthLockedRect_run hpitch hsamples hdata hint
      refine ⟨out, hout, ?_, hfilled.rest (depthRun_length bits)⟩
      intro y x hy hx
      omega
    have hcond : 3 * (w * h) < 2^31 ∧ (pitch = 2 * w ∨ h ≤ 1 ∨ w = 0) := by omega
    exact iff_of_true hall hcond
  · rw [not_or] at hempty
    constructor
    · intro hhonours
      obtain ⟨out, hout, _⟩ :=
        hhonours (zeros (h * pitch)) (zeros (3 * (w * h))) (by simp) (by simp)
      have hne : (pitch : Int) ≠ 0 := Int.natCast_ne_zero.mpr hpitch
      have hint := readDepthLockedRect_int hne (by omega) (by omega) hout
      have hpacked := readDepth_ignores_padding hrow (by omega) hint hhonours
      omega
    · intro ⟨hint, hpacked⟩
      exact readDepth_honoursPitch hpitch hrow hint (by omega)

end Depth

section Color

variable {w h pitch : Nat} {bits data : Block}

/-- What pixel number `k` becomes when its row starts at a multiple of the pitch. -/
def colorAt (bits : Block) (w pitch k : Nat) : Block :=
  colorChannels ((bits.drop (k / w * pitch + k % w * 4)).take 4)

theorem colorAt_length (bits : Block) (w pitch k : Nat) : (colorAt bits w pitch k).length = 3 :=
  rfl

theorem colorAt_pixel (bits : Block) {w x : Nat} (pitch y : Nat) (hx : x < w) :
    colorAt bits w pitch (w * y + x) =
      colorChannels ((bits.drop (y * pitch + x * 4)).take 4) := by
  have hdiv : (w * y + x) / w = y := by
    rw [Nat.mul_add_div (by omega), Nat.div_eq_of_lt hx, Nat.add_zero]
  have hmod : (w * y + x) % w = x := by
    rw [Nat.mul_add_mod, Nat.mod_eq_of_lt hx]
  rw [colorAt, hdiv, hmod]

/-- The rows before the last one and the row itself fit. -/
theorem row_end_le {y : Nat} (hbits : bits.length = h * pitch) (hy : y < h) :
    y * pitch + pitch ≤ bits.length := by
  rw [hbits, ← Nat.succ_mul]
  exact Nat.mul_le_mul_right pitch hy

theorem loadByteAt_sample {off i : Nat} (hoff : off + 4 ≤ bits.length) (hi : i < 4) :
    loadByteAt bits ((off : Int) + i) = some (((bits.drop off).take 4).getD i 0) := by
  have hcast : (off : Int) + i = ((off + i : Nat) : Int) := by push_cast; rfl
  have hin : off + i < bits.length := by omega
  rw [hcast, loadByteAt, if_pos (Int.natCast_nonneg _), Int.toNat_natCast,
    List.getD_eq_getElem?_getD, List.getElem?_take_of_lt hi, List.getElem?_drop,
    List.getElem?_eq_getElem hin, Option.getD_some]

theorem readColorPixel_eq (b : Block) (y x : Nat) (hx : x < w)
    (hint : 3 * (w * y + x) + 2 < 2^31) (hoff : y * pitch + x * 4 + 4 ≤ bits.length) :
    readColorPixel bits ((y * pitch : Nat) : Int) w y x b =
      storeBytes b (3 * (w * y + x)) (colorAt bits w pitch (w * y + x)) := by
  have hoffset : checkedInt ((w * y + x) * 3) = some (3 * (w * y + x)) := by
    rw [Nat.mul_comm]
    exact checkedInt_of_lt (by omega)
  have hlast := checkedInt_of_lt hint
  have hquad : ((y * pitch : Nat) : Int) + 4 * x = ((y * pitch + x * 4 : Nat) : Int) := by
    push_cast
    ring
  have hred := loadByteAt_sample hoff (i := 2) (by omega)
  have hgreen := loadByteAt_sample hoff (i := 1) (by omega)
  have hblue := loadByteAt_sample hoff (i := 0) (by omega)
  rw [Nat.cast_ofNat] at hred
  rw [Nat.cast_one] at hgreen
  rw [Nat.cast_zero, Int.add_zero] at hblue
  have hbytes : colorAt bits w pitch (w * y + x) =
      [((bits.drop (y * pitch + x * 4)).take 4).getD 2 0] ++
      [((bits.drop (y * pitch + x * 4)).take 4).getD 1 0] ++
      [((bits.drop (y * pitch + x * 4)).take 4).getD 0 0] := by
    rw [colorAt_pixel bits pitch y hx]
    rfl
  rw [hbytes, ← storeBytes_append, ← storeBytes_append]
  simp only [readColorPixel, hquad, hoffset, hlast, hred, hgreen, hblue, Option.bind_eq_bind,
    Option.bind_some, Nat.add_zero, Option.bind_assoc]
  rfl

theorem readColorLockedRect_rows (hpitch : pitch ≠ 0) (hrow : 4 * w ≤ pitch)
    (hbits : bits.length = h * pitch) (hdata : 3 * (w * h) ≤ data.length)
    (hint : 3 * (w * h) < 2^31) :
    ∃ out, readColorLockedRect ⟨pitch, bits⟩ w h data = some out ∧
      Filled (colorAt bits w pitch) (w * h) data (w * h) out := by
  have hloop := @forRange_rule _ h (readColorRow ⟨pitch, bits⟩ w) (data, 0)
    (fun y s => Filled (colorAt bits w pitch) (w * h) data (w * y) s.1 ∧
      s.2 = ((y * pitch : Nat) : Int))
    ⟨filled_zero _ _ data, by simp⟩ ?_
  · obtain ⟨t, ht, hfilled, _⟩ := hloop
    refine ⟨t.1, ?_, hfilled⟩
    have hne : (pitch : Int) ≠ 0 := Int.natCast_ne_zero.mpr hpitch
    rw [readColorLockedRect, if_pos hne, ht, Option.map_some]
  · intro y hy s hs
    obtain ⟨b, pBuffer⟩ := s
    obtain ⟨hfilled, rfl⟩ := hs
    have hend := row_end_le hbits hy
    have hinner := @forRange_rule _ w (readColorPixel bits ((y * pitch : Nat) : Int) w y) b
      (fun x c => Filled (colorAt bits w pitch) (w * h) data (w * y + x) c) hfilled ?_
    · obtain ⟨c, hc, hnext⟩ := hinner
      refine ⟨(c, ((y * pitch : Nat) : Int) + pitch), ?_, hnext, ?_⟩
      · rw [readColorRow, hc, Option.map_some]
      · push_cast
        ring
    · intro x hx c hc
      have hk := pixel_lt hy hx
      rw [readColorPixel_eq c y x hx (by omega) (by omega)]
      exact hc.store (colorAt_length bits w pitch) hdata hk

theorem readColorLockedRect_int {result : Block} (hpitch : pitch ≠ 0) (hw : 0 < w) (hh : 0 < h)
    (hrun : readColorLockedRect ⟨pitch, bits⟩ w h data = some result) : 3 * (w * h) < 2^31 := by
  have hne : (pitch : Int) ≠ 0 := Int.natCast_ne_zero.mpr hpitch
  rw [readColorLockedRect, if_pos hne] at hrun
  obtain ⟨t, ht, _⟩ := Option.map_eq_some_iff.mp hrun
  obtain ⟨u, v, hlastRow⟩ := forRange_turn ht (i := h - 1) (by omega)
  obtain ⟨c, hc, _⟩ := Option.map_eq_some_iff.mp hlastRow
  obtain ⟨a, b, hlast⟩ := forRange_turn hc (i := w - 1) (by omega)
  have hindex : w * (h - 1) + (w - 1) + 1 = w * h := by
    have := Nat.le_mul_of_pos_right w hh
    rw [Nat.mul_sub, Nat.mul_one]
    omega
  simp only [readColorPixel, Option.bind_eq_bind, Option.bind_eq_some_iff] at hlast
  obtain ⟨offset, hoffset, last, hl, _⟩ := hlast
  obtain ⟨_, rfl⟩ := checkedInt_eq_some_iff.mp hoffset
  have hlt := (checkedInt_eq_some_iff.mp hl).1
  omega

theorem readColor_honoursPitch_iff (hpitch : pitch ≠ 0) (hrow : 4 * w ≤ pitch) :
    HonoursPitch readColorLockedRect 4 colorChannels w h pitch ↔ 3 * (w * h) < 2^31 := by
  constructor
  · intro hhonours
    by_cases hempty : w = 0 ∨ h = 0
    · have hzero : w * h = 0 := Nat.mul_eq_zero.mpr hempty
      omega
    · rw [not_or] at hempty
      obtain ⟨out, hout, _⟩ :=
        hhonours (zeros (h * pitch)) (zeros (3 * (w * h))) (by simp) (by simp)
      exact readColorLockedRect_int hpitch (by omega) (by omega) hout
  · intro hint bits data hbits hdata
    obtain ⟨out, hout, hfilled⟩ := readColorLockedRect_rows hpitch hrow hbits hdata hint
    refine ⟨out, hout, ?_, hfilled.rest (colorAt_length bits w pitch)⟩
    intro y x hy hx
    have hpixel := hfilled.pixel (colorAt_length bits w pitch) (pixel_lt hy hx)
    rw [colorAt_pixel bits pitch y hx] at hpixel
    have hend := row_end_le hbits hy
    exact ⟨_, if_pos (by omega), hpixel⟩

end Color

/-- Exactly when the two readers honour a pitch of at least one row. -/
theorem lockedRects_honour_pitch_iff (w h pitch : Nat) (hpitch : pitch ≠ 0) :
    (2 * w ≤ pitch → (HonoursPitch readDepthLockedRect 2 depthChannels w h pitch ↔
      3 * (w * h) < 2^31 ∧ (pitch = 2 * w ∨ h ≤ 1 ∨ w = 0))) ∧
    (4 * w ≤ pitch → (HonoursPitch readColorLockedRect 4 colorChannels w h pitch ↔
      3 * (w * h) < 2^31)) :=
  ⟨readDepth_honoursPitch_iff hpitch, readColor_honoursPitch_iff hpitch⟩

theorem eight_byte_rows_honoured :
    HonoursPitch readDepthLockedRect 2 depthChannels 4 3 8 ∧
      HonoursPitch readColorLockedRect 4 colorChannels 2 3 8 :=
  ⟨((lockedRects_honour_pitch_iff 4 3 8 (by decide)).1 (by decide)).mpr (by decide),
    ((lockedRects_honour_pitch_iff 2 3 8 (by decide)).2 (by decide)).mpr (by decide)⟩

/-- Two rows of one sample and two bytes of padding. -/
theorem padded_rows_not_honoured :
    ¬ HonoursPitch readDepthLockedRect 2 depthChannels 1 2 4 := by
  intro hhonours
  obtain ⟨out, hout, hpixels, _⟩ := hhonours [0, 0, 0, 0, 0, 255, 0, 0] (zeros 6) rfl (by decide)
  obtain ⟨sample, hsample, hpixel⟩ := hpixels 1 0 (by decide) (by decide)
  have hread : readDepthLockedRect ⟨4, [0, 0, 0, 0, 0, 255, 0, 0]⟩ 1 2 (zeros 6) =
      some (zeros 6) := by decide
  have hrow : loadBytes [0, 0, 0, 0, 0, 255, 0, 0] 4 2 = some [0, 255] := by decide
  obtain rfl : zeros 6 = out := Option.some.inj (hread.symm.trans hout)
  obtain rfl : [0, 255] = sample := Option.some.inj (hrow.symm.trans hsample)
  exact absurd hpixel (by decide)

end KinectHelper.KinectGrabberMSW
