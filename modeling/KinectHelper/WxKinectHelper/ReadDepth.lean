import KinectHelper.Framework.Loop
import KinectHelper.Framework.Memory

namespace KinectHelper

structure LockedRect where
  pitch : Int
  bits : Block

namespace KinectGrabberMSW

/-- The body of the loops. The state is `data` and the offset of `pBufferRun`. -/
def readDepthPixel (bits : Block) (w y x : Nat) (s : Block × Nat) : Option (Block × Nat) := do
  let (data, pBufferRun) := s
  let offset ← checkedInt ((w * y + x) * 3)
  let last ← checkedInt (offset + 2)
  let sample ← loadHalf bits pBufferRun
  let data ← storeBytes data (offset + 0) [UInt8.ofNat (sample >>> 3 &&& 0xff)]
  let data ← storeBytes data (offset + 1) [UInt8.ofNat (sample >>> 11 &&& 0xf)]
  let data ← storeBytes data last [0]
  pure (data, pBufferRun + 2)

def readDepthLockedRect (lockedRect : LockedRect) (w h : Nat) (data : Block) : Option Block :=
  if lockedRect.pitch ≠ 0 then
    (forPixels w h (readDepthPixel lockedRect.bits w) (data, 0)).map Prod.fst
  else some data

def sampleBytes (s : UInt16) : List UInt8 := leBytes 2 s.toNat

/-- The three channels a sample becomes. -/
def depthBytes (s : UInt16) : List UInt8 :=
  [UInt8.ofNat (s.toNat >>> 3 &&& 0xff), UInt8.ofNat (s.toNat >>> 11 &&& 0xf), 0]

theorem leValue_sampleBytes (s : UInt16) : leValue (sampleBytes s) = s.toNat := by
  have hs : s.toNat < 2^16 := s.toNat_lt
  rw [sampleBytes, leValue_leBytes]
  exact Nat.mod_eq_of_lt hs

theorem loadHalf_sample (samples : List UInt16) {k : Nat} (hk : k < samples.length) :
    loadHalf (samples.flatMap sampleBytes) (2 * k) = some samples[k].toNat := by
  have hload := loadHalf_record sampleBytes 2 (fun _ => leBytes_length 2 _) samples hk
    (List.append_nil _).symm (leBytes_length 2 _)
  rwa [leValue_sampleBytes] at hload

theorem readDepthPixel_eq (bits buffer : Block) (s : UInt16) (w y x : Nat)
    (hint : 3 * (w * y + x) + 2 < 2^31)
    (hload : loadHalf bits (2 * (w * y + x)) = some s.toNat) :
    readDepthPixel bits w y x (buffer, 2 * (w * y + x)) =
      (storeBytes buffer (3 * (w * y + x)) (depthBytes s)).map fun b =>
        (b, 2 * (w * y + x) + 2) := by
  have hoffset : checkedInt ((w * y + x) * 3) = some (3 * (w * y + x)) := by
    rw [Nat.mul_comm]
    exact checkedInt_of_lt (by omega)
  have hlast := checkedInt_of_lt hint
  have hbytes : depthBytes s = [UInt8.ofNat (s.toNat >>> 3 &&& 0xff)] ++
      [UInt8.ofNat (s.toNat >>> 11 &&& 0xf)] ++ [0] := rfl
  rw [hbytes, ← storeBytes_append, ← storeBytes_append]
  simp only [readDepthPixel, hoffset, hlast, hload, Option.bind_eq_bind, Option.bind_some,
    Option.pure_def, Nat.add_zero, Option.map_eq_bind, Option.bind_assoc]
  rfl

/-- What the loops have done after `k` samples. -/
def Packed (samples : List UInt16) (data : Block) (k : Nat) (s : Block × Nat) : Prop :=
  s.1 = (samples.take k).flatMap depthBytes ++ data.drop (3 * k) ∧ s.2 = 2 * k

theorem readDepthPixel_packed {samples : List UInt16} {data : Block} {w h y x : Nat}
    (hsamples : samples.length = w * h) (hdata : data.length = 3 * (w * h))
    (hint : 3 * (w * h) < 2^31) (hy : y < h) (hx : x < w) (s : Block × Nat)
    (hI : Packed samples data (w * y + x) s) :
    ∃ t, readDepthPixel (samples.flatMap sampleBytes) w y x s = some t ∧
      Packed samples data (w * y + x + 1) t := by
  obtain ⟨buffer, run⟩ := s
  obtain ⟨rfl, rfl⟩ := hI
  have hk := pixel_lt hy hx
  generalize hkdef : w * y + x = k at hk
  have hk' : k < samples.length := hsamples ▸ hk
  have hturn := readDepthPixel_eq (samples.flatMap sampleBytes)
    ((samples.take k).flatMap depthBytes ++ data.drop (3 * k)) samples[k] w y x (by omega)
    (by rw [hkdef, loadHalf_sample samples hk'])
  rw [hkdef, storeBytes_record depthBytes 3 (fun _ => rfl) samples data hk' (by omega),
    Option.map_some] at hturn
  exact ⟨_, hturn, rfl, by simp only; omega⟩

/-- The reader packs every sample into the three channels of its pixel. -/
theorem readDepthLockedRect_eq (pitch : Int) (samples : List UInt16) (data : Block) (w h : Nat)
    (hpitch : pitch ≠ 0) (hsamples : samples.length = w * h) (hdata : data.length = 3 * (w * h))
    (hint : 3 * (w * h) < 2^31) :
    readDepthLockedRect ⟨pitch, samples.flatMap sampleBytes⟩ w h data =
      some (samples.flatMap depthBytes) := by
  have hloop := @forPixels_rule _ w h (readDepthPixel (samples.flatMap sampleBytes) w) (data, 0)
    (Packed samples data) ⟨by simp, rfl⟩
    (fun y x hy hx s hI => readDepthPixel_packed hsamples hdata hint hy hx s hI)
  obtain ⟨t, ht, hfirst, _⟩ := hloop
  rw [readDepthLockedRect, if_pos hpitch, ht, Option.map_some, hfirst, ← hsamples, List.take_length,
    List.drop_eq_nil_of_le (by omega), List.append_nil]

theorem readDepthLockedRect_int {pitch : Int} {bits data result : Block} {w h : Nat}
    (hpitch : pitch ≠ 0) (hw : 0 < w) (hh : 0 < h)
    (hrun : readDepthLockedRect ⟨pitch, bits⟩ w h data = some result) : 3 * (w * h) < 2^31 := by
  rw [readDepthLockedRect, if_pos hpitch] at hrun
  obtain ⟨t, ht, _⟩ := Option.map_eq_some_iff.mp hrun
  obtain ⟨u, v, hlast⟩ := forPixels_turn ht (y := h - 1) (x := w - 1) (by omega) (by omega)
  have hindex : w * (h - 1) + (w - 1) + 1 = w * h := by
    have := Nat.le_mul_of_pos_right w hh
    rw [Nat.mul_sub, Nat.mul_one]
    omega
  by_contra hbig
  have hover : checkedInt ((w * (h - 1) + (w - 1)) * 3 + 2) = none := if_neg (by omega)
  simp only [readDepthPixel, Option.bind_eq_bind, Option.bind_eq_some_iff] at hlast
  obtain ⟨offset, hoffset, last, hl, _⟩ := hlast
  have heq : offset = (w * (h - 1) + (w - 1)) * 3 := by
    unfold checkedInt at hoffset
    split_ifs at hoffset
    exact (Option.some.inj hoffset).symm
  rw [heq, hover] at hl
  cases hl

end KinectGrabberMSW

end KinectHelper
