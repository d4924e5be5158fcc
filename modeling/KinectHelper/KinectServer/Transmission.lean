import KinectHelper.KinectServer.StoredFrames
import KinectHelper.KinectTest.SenderMailbox
import KinectHelper.KinectTest.StoppedSender
import KinectHelper.KinectTypes.Codec

namespace KinectHelper.Transmission

open KinectServer
open KinectDataSender (SlotInv EveryPacket)

variable {ρ : Type}

/-- What the handlers of the main frame pass to `SendKinectData`. -/
inductive Capture where
  | color (frame : VideoFrame)
  | depth (frame : VideoFrame)
  | skeleton (bytes : Block)

namespace Capture

/-- `GetSize()` bytes at `GetRawData()`. -/
def sentBytes (frame : VideoFrame) : Block :=
  match frame.rawData with
  | some raw => raw.take frame.getSize.toNat
  | none => []

def packet : Capture → Packet
  | .color frame => ⟨sentBytes frame, .frameColor⟩
  | .depth frame => ⟨sentBytes frame, .frameDepth⟩
  | .skeleton bytes => ⟨bytes, .frameSkeleton⟩

def colorFrame : Capture → Option VideoFrame
  | .color frame => some frame
  | _ => none

def depthFrame : Capture → Option VideoFrame
  | .depth frame => some frame
  | _ => none

def skeletonBytes : Capture → Option Block
  | .skeleton bytes => some bytes
  | _ => none

/-- `OnColorFrame` and `OnDepthFrame` build their frame of three channels, which is longer than
a `VideoFrame` object and whose size is an `int`. -/
def VideoGood (abi : Abi) (frame : VideoFrame) : Prop :=
  ∃ width height data, VideoFrame.fromData width height 3 data = some frame ∧
    abi.sizeofVideoFrame < width.toNat * height.toNat * 3 + 12 ∧
    width.toNat * height.toNat * 3 + 12 < 2^31

def Good (abi : Abi) : Capture → Prop
  | .color frame | .depth frame => VideoGood abi frame
  | .skeleton bytes => bytes.length = sizeofSkeletonFrame

/-- The detection of the processor stays inside the frame, if it gets it. -/
def Inside (processor : Processor ρ) : Capture → Prop
  | .color frame => processor.detects = .frameColor → processor.Inside frame
  | .depth frame => processor.detects = .frameDepth → processor.Inside frame
  | .skeleton _ => True

end Capture

/-- The request that `Send` makes: the type as a decimal number in the header `Kinect-Data`. -/
def requestOf (p : Packet) : Request := ⟨some (toString p.type.toInt), some p.data⟩

structure System (ρ : Type) where
  client : KinectDataSender.State
  /-- how many of the requests made the network has carried or lost -/
  settled : Nat
  /-- the requests carried so far -/
  handled : List Packet
  server : DataProcessor ρ

def start (client : KinectDataSender.State) (server : DataProcessor ρ) : System ρ :=
  ⟨client, 0, [], server⟩

def System.made (s : System ρ) : List Packet := Mailbox.takes s.client.log

inductive Action where
  | client (a : KinectDataSender.Action)
  /-- the next request reaches `_OnRequest` -/
  | deliver
  /-- the next request is lost with its connection -/
  | lose

/-- The requests arrive in the order in which they are made. -/
def step (abi : Abi) (processor : Processor ρ) (s : System ρ) : Action → Option (System ρ)
  | .client a => (KinectDataSender.step s.client a).map fun client => { s with client := client }
  | .deliver =>
      match s.made[s.settled]? with
      | none => none
      | some p =>
          (onRequest abi (some (processor.methods abi)) s.server (requestOf p)).map fun r =>
            { s with settled := s.settled + 1, handled := s.handled ++ [p], server := r.1 }
  | .lose => if s.settled < s.made.length then some { s with settled := s.settled + 1 } else none

theorem packetType_requestOf (abi : Abi) (p : Packet) :
    (requestOf p).packetType abi = p.type.toInt := by
  have hformat : ∀ type : KinectDataType,
      atoi abi.longBits (toString type.toInt).toList = type.toInt := by
    intro type
    cases abi <;> cases type <;> decide
  exact hformat p.type

theorem body_requestOf (abi : Abi) (type : KinectDataType) (p : Packet) :
    (requestOf p).body abi type = if p.type = type then some p.data else none := by
  have htype : p.type.toInt = type.toInt ↔ p.type = type := by
    cases p.type <;> cases type <;> decide
  unfold Request.body
  rw [packetType_requestOf]
  simp only [htype]
  rfl

namespace Capture

variable {abi : Abi}

theorem VideoGood.image {frame : VideoFrame} (h : VideoGood abi frame) :
    ∃ img : Image, frame = img.frame ∧ abi.sizeofVideoFrame < img.payload.length + 12 ∧
      img.raw.length < 2^31 := by
  obtain ⟨width, height, data, hframe, hbig, hint⟩ := h
  have h3 : (3 : UInt32).toNat = 3 := rfl
  obtain ⟨hfits, hdata, hframe⟩ := (VideoFrame.fromData_eq_some_iff width height 3 data frame).mp
    hframe
  rw [h3, Nat.mod_eq_of_lt (by omega)] at hfits hdata hframe
  have hlen : (data.take (width.toNat * height.toNat * 3)).length =
      width.toNat * height.toNat * 3 := by rw [List.length_take, Nat.min_eq_left hdata]
  let img : Image := ⟨width, height, 3, data.take (width.toNat * height.toNat * 3), hlen, hfits⟩
  have hraw : img.raw.length = width.toNat * height.toNat * 3 + 12 := by
    rw [img.raw_length]
    exact congrArg (· + 12) hlen
  refine ⟨img, hframe, ?_, by omega⟩
  change _ < (data.take _).length + 12
  rwa [hlen]

theorem sentBytes_image (img : Image) : sentBytes img.frame = img.raw := by
  change img.raw.take img.frame.getSize.toNat = img.raw
  rw [img.getSize_frame, List.take_length]

/-- The server decodes the very frame that the client has built. -/
theorem VideoGood.decode {frame : VideoFrame} (h : VideoGood abi frame) :
    KinectServer.decode abi (sentBytes frame) = frame ∧ frame.isOK = true ∧
      (sentBytes frame).length < 2^31 := by
  obtain ⟨img, rfl, hbig, hint⟩ := h.image
  have hsize : UInt32.ofNat img.raw.length = img.frame.getSize := by
    apply UInt32.toNat_inj.mp
    rw [img.getSize_frame, UInt32.toNat_ofNat', Nat.mod_eq_of_lt (by omega)]
  rw [sentBytes_image]
  refine ⟨?_, rfl, hint⟩
  unfold KinectServer.decode
  rw [hsize, img.accepted abi hbig, Option.getD_some]

theorem Good.length {c : Capture} (h : c.Good abi) : c.packet.data.length < 2^31 := by
  cases c with
  | color frame => exact VideoGood.decode h |>.2.2
  | depth frame => exact VideoGood.decode h |>.2.2
  | skeleton bytes =>
    have hlen : bytes.length = sizeofSkeletonFrame := h
    change bytes.length < _
    rw [hlen]
    decide

theorem acceptedFrame_color {c : Capture} (h : c.Good abi) :
    (requestOf c.packet).acceptedFrame abi .frameColor = c.colorFrame := by
  unfold Request.acceptedFrame
  rw [body_requestOf]
  cases c with
  | color frame =>
    obtain ⟨hdecode, hok, _⟩ := VideoGood.decode h
    simp [packet, colorFrame, hdecode, hok, Option.filter]
  | depth frame => rfl
  | skeleton bytes => rfl

theorem acceptedFrame_depth {c : Capture} (h : c.Good abi) :
    (requestOf c.packet).acceptedFrame abi .frameDepth = c.depthFrame := by
  unfold Request.acceptedFrame
  rw [body_requestOf]
  cases c with
  | color frame => rfl
  | depth frame =>
    obtain ⟨hdecode, hok, _⟩ := VideoGood.decode h
    simp [packet, depthFrame, hdecode, hok, Option.filter]
  | skeleton bytes => rfl

theorem acceptedSkeleton {c : Capture} (h : c.Good abi) :
    (requestOf c.packet).acceptedSkeleton abi = c.skeletonBytes := by
  unfold Request.acceptedSkeleton
  rw [body_requestOf]
  cases c with
  | color frame => rfl
  | depth frame => rfl
  | skeleton bytes =>
    have hlen : bytes.length = sizeofSkeletonFrame := h
    simp [packet, skeletonBytes, hlen, Option.filter]

theorem not_refused {c : Capture} (h : c.Good abi) : ¬ (requestOf c.packet).Refused abi := by
  intro hrefused
  obtain ⟨type, htype, hbody, hnone⟩ := hrefused
  rw [body_requestOf] at hbody
  rcases htype with rfl | rfl
  · rw [acceptedFrame_color h] at hnone
    cases c with
    | color frame => cases hnone
    | depth frame => cases hbody
    | skeleton bytes => cases hbody
  · rw [acceptedFrame_depth h] at hnone
    cases c with
    | color frame => cases hbody
    | depth frame => cases hnone
    | skeleton bytes => cases hbody

theorem Good.short {c : Capture} (h : c.Good abi) : (requestOf c.packet).Short := by
  intro b hb
  obtain rfl : c.packet.data = b := Option.some.inj hb
  exact h.length

theorem inside_accepted {processor : Processor ρ} {c : Capture} (h : c.Good abi)
    (hinside : c.Inside processor) {frame : VideoFrame}
    (hframe : (requestOf c.packet).acceptedFrame abi processor.detects = some frame) :
    processor.Inside frame := by
  rcases processor.detects_cases with hdetects | hdetects
  · rw [hdetects, acceptedFrame_color h] at hframe
    cases c with
    | color frame' =>
      obtain rfl := Option.some.inj hframe
      exact hinside hdetects
    | depth frame' => cases hframe
    | skeleton bytes => cases hframe
  · rw [hdetects, acceptedFrame_depth h] at hframe
    cases c with
    | color frame' => cases hframe
    | depth frame' =>
      obtain rfl := Option.some.inj hframe
      exact hinside hdetects
    | skeleton bytes => cases hframe

/-- A frame that the main frame captures has three channels and a size that does not wrap. -/
theorem VideoGood.size {frame : VideoFrame} (h : VideoGood abi frame) :
    frame.nchannels.toNat = 3 ∧ frame.pixelBytes + 12 < 2^31 := by
  obtain ⟨width, height, data, hframe, _, hint⟩ := h
  obtain ⟨_, _, rfl⟩ := (VideoFrame.fromData_eq_some_iff width height 3 data frame).mp hframe
  exact ⟨rfl, hint⟩

/-- `DetectObject` stays inside the frames whose width is a multiple of four. -/
theorem VideoGood.imageInside_iff {frame : VideoFrame} (h : VideoGood abi frame) :
    ImageInside frame ↔ 4 ∣ frame.width.toNat := by
  obtain ⟨hchannels, hsize⟩ := h.size
  unfold ImageInside
  rw [hchannels]
  omega

/-- `CreatePointCloud` stays inside the frames whose columns and rows its counters reach. -/
theorem VideoGood.cloudInside_iff {frame : VideoFrame} (h : VideoGood abi frame) :
    PclSegmentation.CloudInside frame ↔
      frame.width.toNat ≤ 2^24 + 1 ∧ frame.height.toNat ≤ 2^24 + 1 := by
  obtain ⟨hchannels, hsize⟩ := h.size
  unfold PclSegmentation.CloudInside
  rw [hchannels]
  omega

end Capture

/-- A packet that the handlers of the main frame have passed to `SendKinectData`, with a frame that
the detection of the server gets through. -/
def Captured (abi : Abi) (processor : Processor ρ) (p : Packet) : Prop :=
  ∃ c : Capture, c.Good abi ∧ c.Inside processor ∧ c.packet = p

theorem Captured.answerable {abi : Abi} {processor : Processor ρ} {p : Packet}
    (h : Captured abi processor p) : (requestOf p).Answerable abi processor := by
  obtain ⟨c, hc, hinside, rfl⟩ := h
  exact ⟨hc.short, Capture.not_refused hc, fun frame => Capture.inside_accepted hc hinside⟩

def isData (p : Packet) : Bool := p.type ≠ .connectionInit

structure Inv (abi : Abi) (processor : Processor ρ) (skeleton : Block) (rest : ρ) (s : System ρ) :
    Prop where
  slot : SlotInv s.client
  captured : EveryPacket (Captured abi processor) s.client
  settled : s.settled ≤ s.made.length
  handled : s.handled.Sublist (s.made.take s.settled)
  server : handle abi processor (DataProcessor.start skeleton rest)
    ((s.handled.filter isData).map requestOf) = some s.server

section Inv

variable {abi : Abi} {processor : Processor ρ} {skeleton : Block} {rest : ρ} {s t : System ρ}

theorem onRequest_connectionInit (abi : Abi) (m : Methods (DataProcessor ρ))
    (server : DataProcessor ρ) {p : Packet} (hp : p.type = .connectionInit) :
    onRequest abi (some m) server (requestOf p) = some (server, false) := by
  unfold onRequest
  rw [packetType_requestOf, hp]
  rfl

/-- Every data request made is one of a capture. -/
theorem Inv.made_captured (hI : Inv abi processor skeleton rest s) {p : Packet}
    (hp : p ∈ s.made) (hdata : isData p = true) : Captured abi processor p := by
  obtain ⟨slot, hslot⟩ := Option.isSome_iff_exists.mp hI.slot.possible
  have hsub := Mailbox.filtered_takes_sublist_puts hslot
  apply hI.captured.log p
  apply hsub.subset
  exact List.mem_filter.mpr ⟨hp, hdata⟩

theorem Inv.client (hI : Inv abi processor skeleton rest s) {a : KinectDataSender.Action}
    (ha : ∀ p, a = .callSend p → Captured abi processor p) {client : KinectDataSender.State}
    (h : KinectDataSender.step s.client a = some client) :
    Inv abi processor skeleton rest { s with client := client } := by
  have hgrows : ∃ new, Mailbox.takes client.log = s.made ++ new := by
    rcases KinectDataSender.step_log h with hlog | ⟨q, _, hlog⟩ | ⟨c, req, _, _, hlog⟩
    · exact ⟨[], by rw [hlog, List.append_nil]; rfl⟩
    · exact ⟨[], by rw [hlog, Mailbox.takes_append]; rfl⟩
    · exact ⟨[req], by rw [hlog, Mailbox.takes_append]; rfl⟩
  obtain ⟨new, hnew⟩ := hgrows
  have hmade : ({ s with client := client } : System ρ).made = s.made ++ new := hnew
  constructor
  · exact KinectDataSender.slotInv_step s.client a client hI.slot h
  · exact KinectDataSender.everyPacket_step hI.captured ha h
  · rw [hmade, List.length_append]
    exact hI.settled.trans (Nat.le_add_right _ _)
  · rw [hmade, List.take_append_of_le_length hI.settled]
    exact hI.handled
  · exact hI.server

theorem Inv.lose (hI : Inv abi processor skeleton rest s) (h : s.settled < s.made.length) :
    Inv abi processor skeleton rest { s with settled := s.settled + 1 } where
  slot := hI.slot
  captured := hI.captured
  settled := h
  handled := hI.handled.trans (List.take_sublist_take_left (Nat.le_succ s.settled))
  server := hI.server

/-- The next request is processed without a fault. -/
theorem Inv.deliver (hI : Inv abi processor skeleton rest s) (h : s.settled < s.made.length) :
    ∃ t, step abi processor s .deliver = some t ∧ Inv abi processor skeleton rest t := by
  have hget : s.made[s.settled]? = some s.made[s.settled] := List.getElem?_eq_getElem h
  generalize hp : s.made[s.settled] = p at hget
  have hsub : (s.handled ++ [p]).Sublist (s.made.take (s.settled + 1)) := by
    rw [List.take_succ_eq_append_getElem h, hp]
    exact hI.handled.append (List.Sublist.refl [p])
  have hmem : p ∈ s.made := hp ▸ List.getElem_mem h
  simp only [step, hget]
  cases hdata : isData p with
  | false =>
    have htype : p.type = .connectionInit := by simpa [isData] using hdata
    rw [onRequest_connectionInit _ _ _ htype]
    refine ⟨_, rfl, hI.slot, hI.captured, h, hsub, ?_⟩
    have hfilter : (s.handled ++ [p]).filter isData = s.handled.filter isData := by
      simp [List.filter_append, hdata]
    dsimp only
    rw [hfilter]
    exact hI.server
  | true =>
    have hcaptured := hI.made_captured hmem hdata
    obtain ⟨q, hq⟩ := onRequest_answerable hcaptured.answerable s.server
    rw [hq]
    refine ⟨_, rfl, hI.slot, hI.captured, h, hsub, ?_⟩
    have hfilter : (s.handled ++ [p]).filter isData = s.handled.filter isData ++ [p] := by
      simp [List.filter_append, hdata]
    dsimp only
    rw [hfilter, List.map_append, List.map_singleton, handle_concat, hI.server, Option.bind_some,
      hq, Option.map_some]

theorem Inv.step (hI : Inv abi processor skeleton rest s) {a : Action}
    (ha : ∀ p, a = .client (.callSend p) → Captured abi processor p)
    (h : step abi processor s a = some t) : Inv abi processor skeleton rest t := by
  cases a with
  | client a =>
    obtain ⟨client, hclient, rfl⟩ := Option.map_eq_some_iff.mp h
    exact hI.client (fun p hp => ha p (congrArg Action.client hp)) hclient
  | deliver =>
    have hlt : s.settled < s.made.length := by
      by_contra hge
      have hnone : s.made[s.settled]? = none := List.getElem?_eq_none (not_lt.mp hge)
      simp only [Transmission.step, hnone, reduceCtorEq] at h
    obtain ⟨u, hu, hIu⟩ := hI.deliver hlt
    rw [hu] at h
    cases h
    exact hIu
  | lose =>
    unfold Transmission.step at h
    split_ifs at h with hlt
    cases h
    exact hI.lose hlt

theorem inv_start (bConnected evhttpConnection : Bool) (dataLen : Nat)
    (dataType : KinectDataType) :
    Inv abi processor skeleton rest
      (start (KinectDataSender.start bConnected evhttpConnection dataLen dataType)
        (DataProcessor.start skeleton rest)) where
  slot := KinectDataSender.slotInv_start bConnected evhttpConnection dataLen dataType
  captured := ⟨nofun, nofun⟩
  settled := Nat.zero_le _
  handled := List.nil_sublist _
  server := rfl

end Inv

private theorem exists_captures {abi : Abi} {processor : Processor ρ} {packets : List Packet}
    (h : ∀ p ∈ packets, Captured abi processor p) :
    ∃ shown : List Capture, shown.map Capture.packet = packets ∧ ∀ c ∈ shown, c.Good abi := by
  induction packets with
  | nil => exact ⟨[], rfl, nofun⟩
  | cons p packets ih =>
    obtain ⟨c, hc, _, hcp⟩ := h p List.mem_cons_self
    obtain ⟨shown, hmap, hgood⟩ := ih fun q hq => h q (List.mem_cons_of_mem p hq)
    refine ⟨c :: shown, by rw [List.map_cons, hcp, hmap], ?_⟩
    intro d hd
    rcases List.mem_cons.mp hd with rfl | hd
    · exact hc
    · exact hgood d hd

private theorem filterMap_requests {α : Type*} {abi : Abi} {shown : List Capture}
    (hgood : ∀ c ∈ shown, c.Good abi) {f : Request → Option α} {g : Capture → Option α}
    (hfg : ∀ c : Capture, c.Good abi → f (requestOf c.packet) = g c) :
    ((shown.map Capture.packet).map requestOf).filterMap f = shown.filterMap g := by
  rw [List.map_map, List.filterMap_map]
  apply List.filterMap_congr
  intro c hc
  exact hfg c (hgood c hc)

/-- What the server holds once it has been brought the packets of captures. -/
theorem handle_captures {abi : Abi} (processor : Processor ρ) (skeleton : Block) (rest : ρ)
    {packets : List Packet} (h : ∀ p ∈ packets, Captured abi processor p) :
    ∃ shown : List Capture, shown.map Capture.packet = packets ∧
      ∃ server, handle abi processor (DataProcessor.start skeleton rest)
          (packets.map requestOf) = some server ∧
        server.rgbFrame = (shown.filterMap Capture.colorFrame).getLast? ∧
        server.depthFrame = (shown.filterMap Capture.depthFrame).getLast? ∧
        server.skeleton = (shown.filterMap Capture.skeletonBytes).getLast?.getD skeleton := by
  obtain ⟨shown, hshown, hgood⟩ := exists_captures h
  obtain ⟨server, hserver, hlast⟩ := handle_answerable skeleton rest
    (List.forall_mem_map.mpr fun p hp => (h p hp).answerable)
  rw [← hshown] at hlast
  refine ⟨shown, hshown, server, hserver, ?_, ?_, ?_⟩
  · rw [hlast.rgbFrame, filterMap_requests hgood fun c => Capture.acceptedFrame_color]
  · rw [hlast.depthFrame, filterMap_requests hgood fun c => Capture.acceptedFrame_depth]
  · rw [hlast.skeleton, filterMap_requests hgood fun c => Capture.acceptedSkeleton]

/-- A colour frame of four by two pixels. -/
def smallFrame : VideoFrame :=
  ⟨4, 2, 3, some (VideoFrame.encoded 4 2 3 (zeros 24)), some sizeofHeader⟩

end KinectHelper.Transmission
