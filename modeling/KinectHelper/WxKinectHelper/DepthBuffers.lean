import KinectHelper.Framework.Run
import KinectHelper.WxKinectHelper.KinectGrabberFreenect

namespace KinectHelper.KinectGrabberFreenect

inductive Call where
  | depthCallback (frame : List UInt16)
  | grabDepthFrame (data : Block)

/-- A completed call. -/
inductive Event where
  | received (frame : List UInt16)
  | grabbed (returned : Bool) (before after : Block)

structure Session where
  world : World
  history : List Event

def call (self device : Nat) (s : Session) : Call → Option Session
  | .depthCallback frame => do
      let world ← depthCallback device frame s.world
      pure ⟨world, s.history ++ [.received frame]⟩
  | .grabDepthFrame data => do
      let g ← s.world.grabbers self
      let (g, after, returned) ← grabDepthFrame g data
      pure ⟨s.world.setGrabber self g, s.history ++ [.grabbed returned data after]⟩

/-- The driver passes a sample for every pixel, and the caller a buffer for three bytes of each. -/
def Call.Fits (w h : Nat) : Call → Prop
  | .depthCallback frame => w * h ≤ frame.length
  | .grabDepthFrame data => 3 * (w * h) ≤ data.length

def Event.call : Event → Call
  | .received frame => .depthCallback frame
  | .grabbed _ before _ => .grabDepthFrame before

def Event.Received : Event → Prop
  | .received _ => True
  | .grabbed _ _ _ => False

def Event.Succeeded : Event → Prop
  | .received _ => False
  | .grabbed returned _ _ => returned = true

/-- A callback has completed since the previous successful grab. -/
def Waiting (history : List Event) : Prop := Since Event.Received Event.Succeeded history

/-- `frame` is the frame of the latest callback. -/
def Newest (frame : List UInt16) (history : List Event) : Prop :=
  Since (· = .received frame) Event.Received history

/-- Byte `3*(w*y+x)+k` of `after` shows sample `(x,y)`. -/
def Shows (w h : Nat) (frame : List UInt16) (after : Block) : Prop :=
  ∀ y x k, y < h → x < w → k < 3 →
    ∃ s, frame[w * y + x]? = some s ∧ after[3 * (w * y + x) + k]? = some (getDepthValue s)

/-- What a call of `GrabDepthFrame` does after the calls before it. -/
structure GrabsNewest (w h : Nat) (history : List Event) (returned : Bool) (before after : Block) :
    Prop where
  returned_iff : returned = true ↔ Waiting history
  shown : returned = true → ∃ frame, Newest frame history ∧ Shows w h frame after
  unchanged : returned = false → after = before

def Event.Correct (w h : Nat) (history : List Event) : Event → Prop
  | .received _ => True
  | .grabbed returned before after => GrabsNewest w h history returned before after

@[simp] theorem waiting_received (history : List Event) (frame : List UInt16) :
    Waiting (history ++ [.received frame]) :=
  since_concat.mpr (Or.inl trivial)

@[simp] theorem waiting_grabbed (history : List Event) (returned : Bool) (before after : Block) :
    Waiting (history ++ [.grabbed returned before after]) ↔ returned = false ∧ Waiting history := by
  rw [Waiting, since_concat]
  simp [Event.Received, Event.Succeeded, Waiting]

theorem newest_received (history : List Event) (frame : List UInt16) :
    Newest frame (history ++ [.received frame]) :=
  since_concat.mpr (Or.inl rfl)

/-- The three channels a sample becomes. -/
def channels (s : UInt16) : List UInt8 := List.replicate 3 (getDepthValue s)

def packed (w h : Nat) (frame : List UInt16) : Block := (frame.take (w * h)).flatMap channels

theorem channels_length (s : UInt16) : (channels s).length = 3 := List.length_replicate

theorem packed_length {w h : Nat} {frame : List UInt16} (hframe : w * h ≤ frame.length) :
    (packed w h frame).length = 3 * (w * h) := by
  rw [packed, flatMap_length channels 3 channels_length, List.length_take, Nat.min_eq_left hframe]

theorem packed_shows {w h : Nat} {frame : List UInt16} (hframe : w * h ≤ frame.length)
    (rest : Block) : Shows w h frame (packed w h frame ++ rest) := by
  intro y x k hy hx hk
  have hpixel := pixel_lt hy hx
  have hlen : (frame.take (w * h)).length = w * h := by
    rw [List.length_take, Nat.min_eq_left hframe]
  have hindex : w * y + x < (frame.take (w * h)).length := by rwa [hlen]
  obtain ⟨hsplit, hpre⟩ := flatMap_split channels 3 channels_length (frame.take (w * h)) hindex
  refine ⟨frame[w * y + x], List.getElem?_eq_getElem _, ?_⟩
  rw [packed, hsplit, List.append_assoc, List.append_assoc,
    List.getElem?_append_right (by omega), hpre, Nat.add_sub_cancel_left,
    List.getElem?_append_left (by rwa [channels_length])]
  simp only [channels, List.getElem?_replicate, if_pos hk, List.getElem_take]

theorem depthPixel_eq (data : List UInt16) (w y x : Nat) (buffer : Block) (s : UInt16)
    (hint : 3 * (w * y + x) + 2 < 2^31) (hs : data[w * y + x]? = some s) :
    depthPixel data w y x (buffer, w * y + x) =
      (storeBytes buffer (3 * (w * y + x)) (channels s)).map fun b => (b, w * y + x + 1) := by
  have hoffset : checkedInt ((w * y + x) * 3) = some (3 * (w * y + x)) := by
    rw [Nat.mul_comm]
    exact checkedInt_of_lt (by omega)
  have hlast := checkedInt_of_lt hint
  have hchannels : channels s = [getDepthValue s] ++ [getDepthValue s] ++ [getDepthValue s] := rfl
  rw [hchannels, ← storeBytes_append, ← storeBytes_append]
  simp only [depthPixel, hoffset, hlast, hs, Option.bind_eq_bind, Option.bind_some,
    Option.pure_def, Nat.add_zero, Option.map_eq_bind, Option.bind_assoc]
  rfl

/-- The loops of `DepthCallback` pack the frame. -/
theorem receiveDepth_eq {g : Grabber} {data : List UInt16} {buffer : Block}
    (hbuffer : g.depthBuffers g.depthBufferIndex = some buffer)
    (hlength : buffer.length = 3 * (g.depthFrameWidth * g.depthFrameHeight))
    (hdata : g.depthFrameWidth * g.depthFrameHeight ≤ data.length)
    (hint : 3 * (g.depthFrameWidth * g.depthFrameHeight) < 2^31) :
    receiveDepth g data = some { g with
      depthBuffers := Function.update g.depthBuffers g.depthBufferIndex
        (some (packed g.depthFrameWidth g.depthFrameHeight data))
      gotDepth := true
      handler := g.handler.map (· ++ [g.deviceIndex]) } := by
  set w := g.depthFrameWidth
  set h := g.depthFrameHeight
  have hlen : (data.take (w * h)).length = w * h := by rw [List.length_take, Nat.min_eq_left hdata]
  have hloop := @forPixels_rule _ w h (depthPixel data w) (buffer, 0)
    (fun k s =>
      s.1 = ((data.take (w * h)).take k).flatMap channels ++ buffer.drop (3 * k) ∧ s.2 = k)
    ⟨by simp, rfl⟩ ?_
  · obtain ⟨⟨t, _⟩, ht, hfirst, _⟩ := hloop
    have hpacked : t = packed w h data := by
      dsimp only at hfirst
      rw [hfirst, List.take_of_length_le hlen.le, List.drop_eq_nil_of_le hlength.le,
        List.append_nil, packed]
    rw [receiveDepth, hbuffer, Option.bind_eq_bind, Option.bind_some, Option.bind_eq_bind, ht,
      Option.bind_some, hpacked]
    rfl
  · intro y x hy hx s hI
    obtain ⟨b, depth⟩ := s
    obtain ⟨hb, hdepth⟩ := hI
    dsimp only at hb hdepth
    subst hb hdepth
    have hpixel := pixel_lt hy hx
    have hindex : w * y + x < (data.take (w * h)).length := by rwa [hlen]
    have hsample : data[w * y + x]? = some (data.take (w * h))[w * y + x] := by
      rw [List.getElem_take]
      exact List.getElem?_eq_getElem _
    have hturn := depthPixel_eq data w y x
      (((data.take (w * h)).take (w * y + x)).flatMap channels ++ buffer.drop (3 * (w * y + x)))
      _ (by omega) hsample
    have hroom : 3 * (data.take (w * h)).length ≤ buffer.length := by
      rw [hlen]
      exact hlength.ge
    rw [storeBytes_record channels 3 channels_length _ buffer hindex hroom, Option.map_some]
      at hturn
    exact ⟨_, hturn, rfl, rfl⟩

section Session

variable {address device w h : Nat}

/-- A grabber that grabs. -/
structure Grabbing (device w h : Nat) (g : Grabber) : Prop where
  device_eq : g.device = some device
  thread_alive : g.thread = .alive
  width_eq : g.depthFrameWidth = w
  height_eq : g.depthFrameHeight = h
  no_overflow : 3 * (w * h) < 2^31
  length_eq : g.depthBufferLength = 3 * (w * h)
  buffers : ∀ i, ∃ b, g.depthBuffers i = some b ∧ b.length = 3 * (w * h)

theorem Grabbing.receiveDepth {g : Grabber} (hg : Grabbing device w h g) {frame : List UInt16}
    (hframe : w * h ≤ frame.length) :
    ∃ g', receiveDepth g frame = some g' ∧ Grabbing device w h g' ∧ g'.gotDepth = true ∧
      g'.depthBuffers g'.depthBufferIndex = some (packed w h frame) := by
  obtain ⟨hdevice, hthread, rfl, rfl, hint, hlength, hbuffers⟩ := hg
  obtain ⟨buffer, hbuffer, hbufferLength⟩ := hbuffers g.depthBufferIndex
  refine ⟨_, receiveDepth_eq hbuffer hbufferLength hframe hint,
    ⟨hdevice, hthread, rfl, rfl, hint, hlength, ?_⟩, rfl, Function.update_self _ _ _⟩
  intro i
  by_cases hi : i = g.depthBufferIndex
  · subst hi
    exact ⟨_, Function.update_self _ _ _, packed_length hframe⟩
  · obtain ⟨b, hb, hlen⟩ := hbuffers i
    exact ⟨b, (Function.update_of_ne hi _ _).trans hb, hlen⟩

/-- `GrabDepthFrame` with a new frame copies the buffer. -/
theorem Grabbing.grabDepthFrame {g : Grabber} (hg : Grabbing device w h g) {buffer data : Block}
    (hgot : g.gotDepth = true) (hbuffer : g.depthBuffers g.depthBufferIndex = some buffer)
    (hlength : buffer.length = 3 * (w * h)) (hdata : 3 * (w * h) ≤ data.length) :
    ∃ g', grabDepthFrame g data = some (g', buffer ++ data.drop buffer.length, true) ∧
      Grabbing device w h g' ∧ g'.gotDepth = false := by
  have hgoes : ¬ (g.device = none ∨ g.gotDepth = false ∨ g.thread ≠ .alive) := by
    simp [hg.device_eq, hgot, hg.thread_alive]
  have hfits : buffer.length ≤ data.length := by rwa [hlength]
  have hstore : storeBytes data 0 buffer = some (buffer ++ data.drop buffer.length) := by
    simp [storeBytes, hfits]
  refine ⟨{ g with depthBufferIndex := 1 - g.depthBufferIndex, gotDepth := false }, ?_,
    { hg with }, rfl⟩
  simp only [KinectGrabberFreenect.grabDepthFrame, if_neg hgoes, hbuffer, hg.length_eq, ← hlength,
    loadBytes_all, hstore, Option.bind_eq_bind, Option.bind_some, Option.pure_def]

/-- The buffer at the index holds the newest frame exactly when the flag is set. -/
structure HoldsNewest (w h : Nat) (g : Grabber) (history : List Event) : Prop where
  waiting_iff : g.gotDepth = true ↔ Waiting history
  newest : g.gotDepth = true → ∃ frame, Newest frame history ∧ w * h ≤ frame.length ∧
    g.depthBuffers g.depthBufferIndex = some (packed w h frame)

structure Inv (address device w h : Nat) (s : Session) (g : Grabber) : Prop where
  found : s.world.grabbers address = some g
  registered : s.world.deviceHash device = some (some address)
  grabbing : Grabbing device w h g
  holds : HoldsNewest w h g s.history
  correct : Along (Event.Correct w h) s.history

@[simp] theorem setGrabber_self (s : World) (g : Grabber) :
    (s.setGrabber address g).grabbers address = some g := Function.update_self _ _ _

theorem inv_depthCallback {s : Session} {g : Grabber} (hI : Inv address device w h s g)
    (frame : List UInt16) (hframe : w * h ≤ frame.length) :
    ∃ t, call address device s (.depthCallback frame) = some t ∧
      ∃ g', Inv address device w h t g' := by
  obtain ⟨g', hreceive, hg', hgot, hbuffer⟩ := hI.grabbing.receiveDepth hframe
  refine ⟨⟨s.world.setGrabber address g', s.history ++ [.received frame]⟩, ?_, g', ?_⟩
  · simp only [call, depthCallback, hI.registered, hI.found, hreceive, Option.bind_eq_bind,
      Option.bind_some, Option.pure_def]
  · exact
      { found := setGrabber_self _ _
        registered := hI.registered
        grabbing := hg'
        holds := ⟨by simp [hgot], fun _ => ⟨frame, newest_received _ _, hframe, hbuffer⟩⟩
        correct := along_concat.mpr ⟨hI.correct, trivial⟩ }

/-- A call of `GrabDepthFrame` that does what it should after the calls before it. -/
theorem Inv.grabbed {s : Session} {g g' : Grabber} {returned : Bool} {data after : Block}
    (hI : Inv address device w h s g)
    (hgrab : grabDepthFrame g data = some (g', after, returned)) (hg' : Grabbing device w h g')
    (hcorrect : GrabsNewest w h s.history returned data after)
    (hholds : HoldsNewest w h g' (s.history ++ [.grabbed returned data after])) :
    ∃ t, call address device s (.grabDepthFrame data) = some t ∧
      ∃ g', Inv address device w h t g' := by
  refine ⟨⟨s.world.setGrabber address g', s.history ++ [.grabbed returned data after]⟩, ?_, g', ?_⟩
  · simp only [call, hI.found, hgrab, Option.bind_eq_bind, Option.bind_some, Option.pure_def]
  · exact
      { found := setGrabber_self _ _
        registered := hI.registered
        grabbing := hg'
        holds := hholds
        correct := along_concat.mpr ⟨hI.correct, hcorrect⟩ }

theorem inv_grabDepthFrame {s : Session} {g : Grabber} (hI : Inv address device w h s g)
    (data : Block) (hdata : 3 * (w * h) ≤ data.length) :
    ∃ t, call address device s (.grabDepthFrame data) = some t ∧
      ∃ g', Inv address device w h t g' := by
  have hwaiting := hI.holds.waiting_iff
  cases hgot : g.gotDepth with
  | false =>
    rw [hgot] at hwaiting
    have hgrab : grabDepthFrame g data = some (g, data, false) := by
      rw [grabDepthFrame, if_pos (Or.inr (Or.inl hgot))]
    apply hI.grabbed hgrab hI.grabbing ⟨hwaiting, nofun, fun _ => rfl⟩
    constructor
    · rw [hgot, waiting_grabbed, ← hwaiting]
      simp
    · rw [hgot]
      nofun
  | true =>
    rw [hgot] at hwaiting
    obtain ⟨frame, hnewest, hframe, hbuffer⟩ := hI.holds.newest hgot
    obtain ⟨g', hgrab, hg', hgot'⟩ :=
      hI.grabbing.grabDepthFrame hgot hbuffer (packed_length hframe) hdata
    apply hI.grabbed hgrab hg'
    · exact ⟨hwaiting, fun _ => ⟨frame, hnewest, packed_shows hframe _⟩, nofun⟩
    · constructor
      · rw [hgot', waiting_grabbed]
        simp
      · rw [hgot']
        nofun

theorem inv_call (s : Session) (c : Call) (hI : ∃ g, Inv address device w h s g) (hc : c.Fits w h) :
    ∃ t, call address device s c = some t ∧ ∃ g, Inv address device w h t g := by
  obtain ⟨g, hg⟩ := hI
  cases c with
  | depthCallback frame => exact inv_depthCallback hg frame hc
  | grabDepthFrame data => exact inv_grabDepthFrame hg data hc

/-- `Start` leaves a grabber that grabs and has no frame yet. -/
theorem inv_start {s t : World} {g : Grabber} {r : StartResults}
    (hg : s.grabbers address = some g) (hstart : start address r s = some (t, true))
    (hdevice : r.openDevice = some device) (halive : r.run = true) :
    ∃ g', Inv address device g.depthFrameWidth g.depthFrameHeight ⟨t, []⟩ g' := by
  unfold start at hstart
  rw [hg, Option.bind_eq_bind, Option.bind_some, hdevice] at hstart
  split_ifs at hstart
  · simp at hstart
  · simp at hstart
  obtain ⟨length, hlength, hrest⟩ := Option.bind_eq_some_iff.mp hstart
  obtain ⟨hint, hvalue⟩ := checkedInt_eq_some_iff.mp hlength
  obtain ⟨rfl, _⟩ := Prod.mk.inj (Option.some.inj hrest)
  refine ⟨_, setGrabber_self _ _, Function.update_self _ _ _, ?_, ?_, along_nil _⟩
  · exact
      { device_eq := rfl
        thread_alive := rfl
        width_eq := rfl
        height_eq := rfl
        no_overflow := by omega
        length_eq := by rw [← hvalue, Nat.mul_comm]
        buffers := fun i => ⟨_, rfl, by rw [newBuffer_length, ← hvalue, Nat.mul_comm]⟩ }
  · exact ⟨⟨nofun, fun h => absurd h (since_nil _ _)⟩, nofun⟩

theorem call_history {s t : Session} {c : Call} (h : call address device s c = some t) :
    ∃ e, t.history = s.history ++ [e] ∧ e.call = c := by
  cases c with
  | depthCallback frame =>
    obtain ⟨world, _, ht⟩ := Option.bind_eq_some_iff.mp h
    exact ⟨.received frame, by rw [← Option.some.inj ht], rfl⟩
  | grabDepthFrame data =>
    obtain ⟨g, _, hrest⟩ := Option.bind_eq_some_iff.mp h
    obtain ⟨⟨g', after, returned⟩, _, ht⟩ := Option.bind_eq_some_iff.mp hrest
    exact ⟨.grabbed returned data after, by rw [← Option.some.inj ht], rfl⟩

theorem exec_history {calls : List Call} {s t : Session}
    (h : exec (call address device) s calls = some t) :
    t.history.map Event.call = s.history.map Event.call ++ calls := by
  induction calls generalizing s with
  | nil =>
    obtain rfl := Option.some.inj h
    exact (List.append_nil _).symm
  | cons c calls ih =>
    obtain ⟨u, hu, ht⟩ := Option.bind_eq_some_iff.mp h
    obtain ⟨e, he, hc⟩ := call_history hu
    rw [ih ht, he, List.map_append, List.map_singleton, hc, List.append_assoc,
      List.singleton_append]

end Session

/-- Between a successful `Start` and `Stop`, every `GrabDepthFrame` hands over the newest frame not
handed over yet. -/
theorem grabs_newest (address device : Nat) (g : Grabber) (r : StartResults) (s t : World)
    (calls : List Call) (hg : s.grabbers address = some g)
    (hstart : start address r s = some (t, true)) (hdevice : r.openDevice = some device)
    (halive : r.run = true)
    (hcalls : ∀ c ∈ calls, c.Fits g.depthFrameWidth g.depthFrameHeight) :
    ∃ u, exec (call address device) ⟨t, []⟩ calls = some u ∧ u.history.map Event.call = calls ∧
      Along (Event.Correct g.depthFrameWidth g.depthFrameHeight) u.history := by
  have hinv := inv_start hg hstart hdevice halive
  obtain ⟨u, hu, _, hI⟩ := exec_total inv_call calls ⟨t, []⟩ hinv hcalls
  exact ⟨u, hu, exec_history hu, hI.correct⟩

/-- A grabber of two pixels, before `Start`. -/
def idleGrabber : Grabber where
  context := true
  device := none
  deviceIndex := 0
  handler := some []
  thread := .none
  depthFrameWidth := 2
  depthFrameHeight := 1
  depthBuffers := fun _ => none
  depthBufferLength := 0
  depthBufferIndex := Fin.last 1
  gotDepth := true

def idleWorld : World := ⟨fun _ => some idleGrabber, fun _ => none⟩

def goodStart : StartResults := ⟨true, some 7, fun _ _ => 0, true⟩

/-- Two frames come before the second of three grabs. -/
def threeGrabs : List Call :=
  [.grabDepthFrame (zeros 6), .depthCallback [100, 200], .depthCallback [0x7ff, 1024],
   .grabDepthFrame (zeros 6), .grabDepthFrame (zeros 6)]

theorem three_grabs_newest : ∃ t u, start 0 goodStart idleWorld = some (t, true) ∧
    exec (call 0 7) ⟨t, []⟩ threeGrabs = some u ∧ u.history.map Event.call = threeGrabs ∧
      Along (Event.Correct 2 1) u.history := by
  obtain ⟨t, hstart⟩ : ∃ t, start 0 goodStart idleWorld = some (t, true) := ⟨_, rfl⟩
  have hcalls : ∀ c ∈ threeGrabs, c.Fits 2 1 := by
    simp [threeGrabs, Call.Fits]
  obtain ⟨u, hu⟩ := grabs_newest 0 7 idleGrabber goodStart idleWorld t threeGrabs rfl hstart rfl rfl
    hcalls
  exact ⟨t, u, hstart, hu⟩

end KinectHelper.KinectGrabberFreenect
