import KinectHelper.Segmentation.NonZeroDepths
import KinectHelper.WxKinectHelper.DepthBuffers

namespace KinectHelper.KinectGrabberFreenect

open PclSegmentation DepthPath

variable {P : Type*}

/-- The word that the server reads of a sample: its level in both bytes. -/
def levelWord (s : UInt16) : Nat := 257 * (getDepthValue s).toNat

/-- A sample of 11 bits has one of 256 levels, the first of which is lost as no depth. -/
theorem levelWord_eq {s : UInt16} (hs : s.toNat ≤ 0x7ff) :
    levelWord s = 257 * (255 * s.toNat / 0x7ff) ∧ (levelWord s ≠ 0 ↔ 9 ≤ s.toNat) := by
  have hlevel : (getDepthValue s).toNat = 255 * s.toNat / 0x7ff := by
    rw [getDepthValue, UInt8.toNat_ofNat', Nat.mod_eq_of_lt (by omega)]
  unfold levelWord
  rw [hlevel]
  constructor
  · rfl
  · omega

theorem shows_wordAt {w h : Nat} {frame : List UInt16} {after : Block}
    (hshows : Shows w h frame after) {k : Nat} (hk : k < w * h) :
    wordAt after (3 * k) = levelWord (frame.getD k 0) := by
  have hw : 0 < w := Nat.pos_of_mul_pos_right (Nat.zero_lt_of_lt hk)
  have hrow : k / w < h := (Nat.div_lt_iff_lt_mul hw).mpr (by rwa [Nat.mul_comm] at hk)
  have hindex : w * (k / w) + k % w = k := Nat.div_add_mod k w
  obtain ⟨s, hs, hlow⟩ := hshows (k / w) (k % w) 0 hrow (Nat.mod_lt k hw) (by omega)
  obtain ⟨s', hs', hhigh⟩ := hshows (k / w) (k % w) 1 hrow (Nat.mod_lt k hw) (by omega)
  rw [hindex] at hs hs' hlow hhigh
  obtain rfl : s = s' := Option.some.inj (hs.symm.trans hs')
  rw [Nat.add_zero] at hlow
  have hvalue : levelWord s =
      (getDepthValue s).toNat + 256 * (getDepthValue s).toNat := by
    unfold levelWord
    omega
  simp only [wordAt, List.getD_eq_getElem?_getD, hs, hlow, hhigh, Option.getD_some, hvalue]

/-- What the grab shows arrives in the cloud, pixel by pixel. -/
theorem shown_cloud {abi : Abi} {w h : UInt32} {frame : List UInt16} {after : Block}
    (hw : w.toNat ≤ 2^24) (hh : h.toNat ≤ 2^24)
    (hlarge : abi.sizeofVideoFrame < 3 * (w.toNat * h.toNat) + 12)
    (hfits : 3 * (w.toNat * h.toNat) + 12 < 2^32)
    (hlen : after.length = 3 * (w.toNat * h.toNat)) (hshows : Shows w.toNat h.toNat frame after) :
    ∃ f g, VideoFrame.fromData w h 3 after = some f ∧ VideoFrame.decodeRaw abi f = some g ∧
      g.isOK = true ∧
      ∀ point : Nat → Nat → Nat → P, Visits g point
        (.done (imagePoints w.toNat h.toNat (fun k => levelWord (frame.getD k 0)) point)) := by
  let img := rgbImage w h after hlen hfits
  have hfrom : VideoFrame.fromData w h 3 after = some img.frame := img.fromData_image
  obtain ⟨g, hg, hok⟩ := serverAccepts_of_large hlarge hfits after img.frame hlen hfrom
  have hcarries := decoded_carries hfits hfrom hg hok
  refine ⟨img.frame, g, hfrom, hg, hok, ?_⟩
  intro point
  have hcloud := hcarries.cloud hw hh point
  rwa [imagePoints_congr point fun k hk => shows_wordAt hshows hk] at hcloud

section Run

variable {address device : Nat} {g : Grabber} {r : StartResults} {s t : World}

/-- The newest frame came with one of the calls. -/
theorem newest_called {calls : List Call} {u : Session} {earlier later : List Event}
    {frame : List UInt16} (hrun : exec (call address device) ⟨t, []⟩ calls = some u)
    (hhistory : u.history = earlier ++ later) (hnewest : Newest frame earlier) :
    .depthCallback frame ∈ calls := by
  obtain ⟨pre, e, post, hearlier, rfl, _⟩ := hnewest
  have hcalls := exec_history hrun
  rw [hhistory, hearlier] at hcalls
  rw [List.map_nil, List.nil_append] at hcalls
  rw [← hcalls]
  simp [Event.call]

/-- From the driver to the cloud of the server: each frame that `GrabDepthFrame` hands over is the
newest, and has exactly one point for each pixel whose sample is at least 9, at one of 255
depths. -/
theorem freenect_cloud (abi : Abi) (w h : UInt32) (calls : List Call) (u : Session)
    (earlier : List Event) (before after : Block) (point : Nat → Nat → Nat → P)
    (hg : s.grabbers address = some g)
    (hstart : start address r s = some (t, true)) (hdevice : r.openDevice = some device)
    (halive : r.run = true) (hwidth : g.depthFrameWidth = w.toNat)
    (hheight : g.depthFrameHeight = h.toNat) (hw : w.toNat ≤ 2^24) (hh : h.toNat ≤ 2^24)
    (hlarge : abi.sizeofVideoFrame < 3 * (w.toNat * h.toNat) + 12)
    (hcalls : ∀ c ∈ calls, c.Fits w.toNat h.toNat)
    (hbits : ∀ frame, .depthCallback frame ∈ calls → ∀ x ∈ frame, x.toNat ≤ 0x7ff)
    (hrun : exec (call address device) ⟨t, []⟩ calls = some u)
    (hlast : u.history = earlier ++ [.grabbed true before after])
    (hafter : after.length = 3 * (w.toNat * h.toNat)) :
    ∃ frame f received, Newest frame earlier ∧ VideoFrame.fromData w h 3 after = some f ∧
      VideoFrame.decodeRaw abi f = some received ∧ received.isOK = true ∧
      Visits received point (.done
        ((List.range h.toNat).flatMap fun y => (List.range w.toNat).flatMap fun x =>
          if 9 ≤ (frame.getD (w.toNat * y + x) 0).toNat then
            [point x y (257 * (255 * (frame.getD (w.toNat * y + x) 0).toNat / 0x7ff))]
          else [])) := by
  have hinv := inv_start hg hstart hdevice halive
  rw [hwidth, hheight] at hinv
  obtain ⟨u', hu, g', hI⟩ := exec_total inv_call calls ⟨t, []⟩ hinv hcalls
  obtain rfl : u' = u := Option.some.inj (hu.symm.trans hrun)
  have hcorrect := hI.correct earlier (.grabbed true before after) [] hlast
  obtain ⟨frame, hnewest, hshows⟩ := hcorrect.shown rfl
  have hfits := hI.grabbing.no_overflow
  obtain ⟨f, received, hf, hreceived, hok, hcloud⟩ :=
    @shown_cloud P abi w h frame after hw hh hlarge (by omega) hafter hshows
  refine ⟨frame, f, received, hnewest, hf, hreceived, hok, ?_⟩
  have hsample (k : Nat) : (frame.getD k 0).toNat ≤ 0x7ff := by
    rw [List.getD_eq_getElem?_getD]
    cases hget : frame[k]? with
    | none => simp
    | some x => exact hbits frame (newest_called hrun hlast hnewest) x (List.mem_of_getElem? hget)
  have hpoints := hcloud point
  unfold imagePoints at hpoints
  simp only [(levelWord_eq (hsample _)).2] at hpoints
  simpa only [(levelWord_eq (hsample _)).1] using hpoints

end Run

/-- A grabber of four by two pixels, before `Start`. -/
def smallGrabber : Grabber := { idleGrabber with depthFrameWidth := 4, depthFrameHeight := 2 }

def smallWorld : World := ⟨fun _ => some smallGrabber, fun _ => none⟩

def smallSamples : List UInt16 := [0, 8, 9, 100, 1024, 2046, 2047, 16]

def smallCalls : List Call := [.depthCallback smallSamples, .grabDepthFrame (zeros 24)]

theorem small_frame_cloud :
    ∃ t u before after, start 0 goodStart smallWorld = some (t, true) ∧
      exec (call 0 7) ⟨t, []⟩ smallCalls = some u ∧
      u.history = [.received smallSamples] ++ [.grabbed true before after] ∧
      ∃ frame f received, Newest frame [.received smallSamples] ∧
        VideoFrame.fromData 4 2 3 after = some f ∧
        VideoFrame.decodeRaw .lp64 f = some received ∧ received.isOK = true ∧
        Visits received (fun x y d => (x, y, d)) (.done
          ((List.range 2).flatMap fun y => (List.range 4).flatMap fun x =>
            if 9 ≤ (frame.getD (4 * y + x) 0).toNat then
              [(x, y, 257 * (255 * (frame.getD (4 * y + x) 0).toNat / 0x7ff))]
            else [])) := by
  have hcalls : ∀ c ∈ smallCalls, c.Fits 4 2 := by simp [smallCalls, smallSamples, Call.Fits]
  have hbits : ∀ frame, .depthCallback frame ∈ smallCalls → ∀ x ∈ frame, x.toNat ≤ 0x7ff := by
    intro frame hframe
    obtain rfl : frame = smallSamples := by simpa [smallCalls] using hframe
    simp [smallSamples]
  obtain ⟨t, u, after, hstart, hrun, hlast, hafter⟩ : ∃ t u after,
      start 0 goodStart smallWorld = some (t, true) ∧
      exec (call 0 7) ⟨t, []⟩ smallCalls = some u ∧
      u.history = [.received smallSamples] ++ [.grabbed true (zeros 24) after] ∧
      after.length = 24 := ⟨_, _, _, rfl, rfl, rfl, rfl⟩
  exact ⟨t, u, zeros 24, after, hstart, hrun, hlast,
    freenect_cloud .lp64 4 2 smallCalls u _ (zeros 24) after _ rfl hstart rfl rfl rfl rfl
      (by decide) (by decide) (by decide) hcalls hbits hrun hlast hafter⟩

end KinectHelper.KinectGrabberFreenect
