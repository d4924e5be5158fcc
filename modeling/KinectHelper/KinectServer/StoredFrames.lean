import Mathlib.Data.List.Induction
import KinectHelper.KinectServer.OnRequest
import KinectHelper.KinectServer.Processors

namespace KinectHelper.KinectServer

variable {ρ : Type}

def handle (abi : Abi) (processor : Processor ρ) :
    DataProcessor ρ → List Request → Option (DataProcessor ρ) :=
  exec fun p request => (onRequest abi (some (processor.methods abi)) p request).map Prod.fst

/-- The frame that the constructor makes of a body. -/
def decode (abi : Abi) (body : Block) : VideoFrame :=
  (VideoFrame.fromBuffer abi body (UInt32.ofNat body.length)).getD ⟨0, 0, 0, none, none⟩

namespace Request

/-- The body of a request of the given type. -/
def body (abi : Abi) (type : KinectDataType) (request : Request) : Option Block :=
  if request.packetType abi = type.toInt then request.inputBuffer else none

def acceptedFrame (abi : Abi) (type : KinectDataType) (request : Request) : Option VideoFrame :=
  ((request.body abi type).map (decode abi)).filter VideoFrame.isOK

def acceptedSkeleton (abi : Abi) (request : Request) : Option Block :=
  (request.body abi .frameSkeleton).filter fun b => b.length = sizeofSkeletonFrame

/-- A colour or depth request whose body the constructor refuses. -/
def Refused (abi : Abi) (request : Request) : Prop :=
  ∃ type, (type = .frameColor ∨ type = .frameDepth) ∧ (request.body abi type).isSome = true ∧
    request.acceptedFrame abi type = none

def Short (request : Request) : Prop := ∀ b, request.inputBuffer = some b → b.length < 2^31

/-- The processor after the request, with what the detection leaves. -/
def stored (abi : Abi) (request : Request) (p : DataProcessor ρ) (rest : ρ) : DataProcessor ρ where
  rgbFrame := ((request.body abi .frameColor).map (decode abi)).or p.rgbFrame
  depthFrame := ((request.body abi .frameDepth).map (decode abi)).or p.depthFrame
  skeleton := (request.acceptedSkeleton abi).getD p.skeleton
  rest := rest

/-- The result of the `Process*` call, or false if there is none. -/
def processed (abi : Abi) (request : Request) : Bool :=
  (request.acceptedFrame abi .frameColor).isSome ||
    (request.acceptedFrame abi .frameDepth).isSome || (request.acceptedSkeleton abi).isSome

/-- The detection of a request. -/
def examine (abi : Abi) (processor : Processor ρ) (request : Request) (rest : ρ) : Option ρ :=
  (request.acceptedFrame abi processor.detects).elim (some rest) fun frame =>
    processor.detect frame rest

end Request

/-- The three members are what the last accepted request of each kind left. -/
structure LastAccepted (abi : Abi) (skeleton : Block) (requests : List Request)
    (p : DataProcessor ρ) : Prop where
  rgbFrame : p.rgbFrame = (requests.filterMap (Request.acceptedFrame abi .frameColor)).getLast?
  depthFrame : p.depthFrame = (requests.filterMap (Request.acceptedFrame abi .frameDepth)).getLast?
  skeleton : p.skeleton =
    ((requests.filterMap (Request.acceptedSkeleton abi)).getLast?).getD skeleton

theorem intLength_of_lt {n : Nat} (h : n < 2^31) : intLength n = n := by
  unfold intLength
  rw [Int.bmod_def]
  split_ifs <;> omega

theorem fromBuffer_self (abi : Abi) (body : Block) :
    VideoFrame.fromBuffer abi body (UInt32.ofNat body.length) = some (decode abi body) := by
  have hlen : (UInt32.ofNat body.length).toNat ≤ body.length := by
    rw [UInt32.toNat_ofNat']
    exact Nat.mod_le _ _
  rw [decode, VideoFrame.fromBuffer_eq abi body _ hlen, Option.getD_some]

theorem fromBuffer_decode (abi : Abi) (body : Block) (h : body.length < 2^31) :
    VideoFrame.fromBuffer abi body (toUInt32 (intLength body.length)) = some (decode abi body) := by
  have hmod : ((body.length : Int) % 2^32).toNat = body.length := by omega
  have hword : toUInt32 body.length = UInt32.ofNat body.length := by rw [toUInt32, hmod]
  rw [intLength_of_lt h, hword, fromBuffer_self]

theorem Request.acceptedFrame_fromBuffer {abi : Abi} {type : KinectDataType} {request : Request}
    {frame : VideoFrame} (h : request.acceptedFrame abi type = some frame) :
    ∃ body, VideoFrame.fromBuffer abi body (UInt32.ofNat body.length) = some frame ∧
      frame.isOK = true := by
  obtain ⟨hdecoded, hok⟩ := Option.filter_eq_some_iff.mp h
  obtain ⟨body, _, rfl⟩ := Option.map_eq_some_iff.mp hdecoded
  exact ⟨body, fromBuffer_self abi body, hok⟩

section Step

variable (abi : Abi) (p : DataProcessor ρ)

/-- The detection gets a frame that is good. -/
theorem processVideoFrame_eq {set : DataProcessor ρ → VideoFrame → DataProcessor ρ}
    (hset : ∀ frame, (set p frame).rest = p.rest) (examine : VideoFrame → ρ → Option ρ)
    (body : Block) (h : body.length < 2^31) :
    DataProcessor.processVideoFrame abi set examine p body (intLength body.length) =
      (((some (decode abi body)).filter VideoFrame.isOK).elim (some p.rest) fun frame =>
        examine frame p.rest).map fun rest =>
          ({ set p (decode abi body) with rest := rest }, (decode abi body).isOK) := by
  unfold DataProcessor.processVideoFrame
  rw [fromBuffer_decode abi body h, Option.bind_some]
  dsimp only
  rw [hset]
  cases hok : (decode abi body).isOK with
  | true =>
    rw [if_pos rfl, Option.filter_some_pos hok]
    rfl
  | false =>
    rw [if_neg Bool.false_ne_true, Option.filter_some_neg (by simp [hok]), ← hset (decode abi body)]
    rfl

theorem processSkeletonFrame_eq (body : Block) (h : body.length < 2^31) :
    DataProcessor.processSkeletonFrame p body (intLength body.length) =
      some (if body.length = sizeofSkeletonFrame then ({ p with skeleton := body }, true)
        else (p, false)) := by
  unfold DataProcessor.processSkeletonFrame
  rw [intLength_of_lt h]
  by_cases hsize : body.length = sizeofSkeletonFrame
  · have hall := loadBytes_all body
    rw [if_pos (by exact_mod_cast hsize), if_pos hsize, Int.toNat_natCast, hall, Option.map_some]
  · rw [if_neg (by exact_mod_cast hsize), if_neg hsize]

theorem processColorFrame_eq (processor : Processor ρ) (body : Block) (h : body.length < 2^31) :
    (processor.methods abi).processColorFrame p body (intLength body.length) =
      (((if processor.detects = .frameColor then some (decode abi body) else none).filter
          VideoFrame.isOK).elim (some p.rest) fun frame => processor.detect frame p.rest).map
        fun rest => ({ p with rgbFrame := some (decode abi body), rest := rest },
          (decode abi body).isOK) := by
  have hframe (examine : VideoFrame → ρ → Option ρ) :=
    processVideoFrame_eq abi p (fun frame => (rfl : (p.setRgbFrame frame).rest = p.rest)) examine
      body h
  generalize intLength body.length = length at hframe
  cases processor with
  | simple vision m_objects => exact hframe fun frame _ => vision.detectObject m_objects frame
  | pcl camera =>
    refine (hframe fun _ => some).trans ?_
    cases (some (decode abi body)).filter VideoFrame.isOK <;> rfl

theorem processDepthFrame_eq (processor : Processor ρ) (body : Block) (h : body.length < 2^31) :
    (processor.methods abi).processDepthFrame p body (intLength body.length) =
      (((if processor.detects = .frameDepth then some (decode abi body) else none).filter
          VideoFrame.isOK).elim (some p.rest) fun frame => processor.detect frame p.rest).map
        fun rest => ({ p with depthFrame := some (decode abi body), rest := rest },
          (decode abi body).isOK) := by
  have hframe (examine : VideoFrame → ρ → Option ρ) :=
    processVideoFrame_eq abi p (fun frame => (rfl : (p.setDepthFrame frame).rest = p.rest)) examine
      body h
  generalize intLength body.length = length at hframe
  cases processor with
  | simple vision m_objects =>
    refine (hframe fun _ => some).trans ?_
    cases (some (decode abi body)).filter VideoFrame.isOK <;> rfl
  | pcl camera => exact hframe _

theorem methods_processSkeletonFrame (processor : Processor ρ) :
    (processor.methods abi).processSkeletonFrame = DataProcessor.processSkeletonFrame := by
  cases processor <;> rfl

theorem Request.body_of {request : Request} {type : KinectDataType}
    (h : request.packetType abi = type.toInt) (type' : KinectDataType) :
    request.body abi type' = if type' = type then request.inputBuffer else none := by
  have htype : type.toInt = type'.toInt ↔ type' = type := by
    cases type <;> cases type' <;> decide
  unfold Request.body
  rw [h]
  simp only [htype]

/-- What a request does. -/
theorem onRequest_eq (processor : Processor ρ) (request : Request) (hshort : request.Short) :
    onRequest abi (some (processor.methods abi)) p request =
      (request.examine abi processor p.rest).map fun rest =>
        (request.stored abi p rest, request.processed abi) := by
  have hdetects := processor.detects_cases
  unfold onRequest Request.examine Request.stored Request.processed Request.acceptedFrame
    Request.acceptedSkeleton
  cases hbuffer : request.inputBuffer with
  | none =>
    have hbody (type : KinectDataType) : request.body abi type = none := by
      simp [Request.body, hbuffer]
    simp [hbody]
  | some body =>
    have hlen := hshort body hbuffer
    by_cases hcolor : request.packetType abi = KinectDataType.frameColor.toInt
    · have h := processColorFrame_eq abi p processor body hlen
      have hbody := Request.body_of abi hcolor
      rw [hcolor]
      refine Eq.trans h ?_
      rcases hdetects with hdetects | hdetects
      · simp [hbody, hbuffer, hdetects]
      · simp [hbody, hbuffer, hdetects]
    by_cases hdepth : request.packetType abi = KinectDataType.frameDepth.toInt
    · have h := processDepthFrame_eq abi p processor body hlen
      have hbody := Request.body_of abi hdepth
      rw [hdepth]
      refine Eq.trans h ?_
      rcases hdetects with hdetects | hdetects
      · simp [hbody, hbuffer, hdetects]
      · simp [hbody, hbuffer, hdetects]
    by_cases hskeleton : request.packetType abi = KinectDataType.frameSkeleton.toInt
    · have h := processSkeletonFrame_eq p body hlen
      have hbody := Request.body_of abi hskeleton
      rw [← methods_processSkeletonFrame abi processor] at h
      rw [hskeleton]
      refine Eq.trans h ?_
      rcases hdetects with hdetects | hdetects
      all_goals
        by_cases hsize : body.length = sizeofSkeletonFrame
        · simp [hbody, hbuffer, hdetects, Option.filter, hsize]
        · simp [hbody, hbuffer, hdetects, Option.filter, hsize]
    · -- a request for the connection, or of unsupported type
      have hother (type : KinectDataType) (htype : type = .frameColor ∨ type = .frameDepth ∨
          type = .frameSkeleton) : request.body abi type = none := by
        unfold Request.body
        rcases htype with rfl | rfl | rfl
        · exact if_neg hcolor
        · exact if_neg hdepth
        · exact if_neg hskeleton
      have hexamined : request.body abi processor.detects = none := by
        rcases hdetects with hdetects | hdetects
        · rw [hdetects, hother .frameColor (Or.inl rfl)]
        · rw [hdetects, hother .frameDepth (Or.inr (Or.inl rfl))]
      simp [hcolor, hdepth, hskeleton, hother, hexamined]

end Step

section Runs

variable {abi : Abi} {processor : Processor ρ}

theorem handle_concat (s : DataProcessor ρ) (requests : List Request) (r : Request) :
    handle abi processor s (requests ++ [r]) =
      (handle abi processor s requests).bind fun p =>
        (onRequest abi (some (processor.methods abi)) p r).map Prod.fst := by
  unfold handle
  rw [exec_append]
  congr 1
  funext p
  rw [exec_cons]
  cases onRequest abi (some (processor.methods abi)) p r <;> rfl

/-- The requests are processed without a fault if and only if the detection gets through the
frames among them. -/
theorem handle_isSome_iff (p : DataProcessor ρ) (requests : List Request)
    (hshort : ∀ r ∈ requests, r.Short) :
    (∃ q, handle abi processor p requests = some q) ↔
      processor.GetsThrough p.rest
        (requests.filterMap (Request.acceptedFrame abi processor.detects)) := by
  induction requests generalizing p with
  | nil => exact iff_of_true ⟨p, rfl⟩ (processor.getsThrough_nil p.rest)
  | cons r requests ih =>
    rw [List.forall_mem_cons] at hshort
    have hcons : handle abi processor p (r::requests) =
        (r.examine abi processor p.rest).bind fun rest =>
          handle abi processor (r.stored abi p rest) requests := by
      unfold handle
      rw [exec_cons, onRequest_eq abi p processor r hshort.1, Option.map_map]
      cases r.examine abi processor p.rest <;> rfl
    have hsteps : (∃ q, handle abi processor p (r::requests) = some q) ↔
        ∃ rest, r.examine abi processor p.rest = some rest ∧
          processor.GetsThrough rest
            (requests.filterMap (Request.acceptedFrame abi processor.detects)) := by
      rw [hcons]
      constructor
      · intro ⟨q, hq⟩
        obtain ⟨rest, hrest, hq⟩ := Option.bind_eq_some_iff.mp hq
        exact ⟨rest, hrest, (ih _ hshort.2).mp ⟨q, hq⟩⟩
      · intro ⟨rest, hrest, h⟩
        obtain ⟨q, hq⟩ := (ih (r.stored abi p rest) hshort.2).mpr h
        exact ⟨q, by rw [hrest, Option.bind_some, hq]⟩
    rw [hsteps]
    unfold Request.examine
    cases haccepted : r.acceptedFrame abi processor.detects with
    | none =>
      rw [List.filterMap_cons_none haccepted]
      simp
    | some frame =>
      obtain ⟨body, hframe, hok⟩ := Request.acceptedFrame_fromBuffer haccepted
      rw [List.filterMap_cons_some haccepted, processor.getsThrough_cons p.rest _ hframe hok]
      rfl

private theorem getLast_frame {type : KinectDataType} {r : Request} (requests : List Request)
    (h : (r.body abi type).isSome = true → r.acceptedFrame abi type ≠ none) :
    ((requests ++ [r]).filterMap (Request.acceptedFrame abi type)).getLast? =
      ((r.body abi type).map (decode abi)).or
        (requests.filterMap (Request.acceptedFrame abi type)).getLast? := by
  rw [List.filterMap_append]
  cases hbody : r.body abi type with
  | none =>
    have hnone : r.acceptedFrame abi type = none := by simp [Request.acceptedFrame, hbody]
    simp [hnone]
  | some body =>
    have haccepted := h (by rw [hbody]; rfl)
    have hok : (decode abi body).isOK = true := by
      by_contra hno
      exact haccepted (by simp [Request.acceptedFrame, hbody, Option.filter, hno])
    have hsome : r.acceptedFrame abi type = some (decode abi body) := by
      simp [Request.acceptedFrame, hbody, Option.filter, hok]
    simp [hsome]

private theorem getLast_skeleton (requests : List Request) (r : Request) (skeleton : Block) :
    ((requests ++ [r]).filterMap (Request.acceptedSkeleton abi)).getLast?.getD skeleton =
      (r.acceptedSkeleton abi).getD
        ((requests.filterMap (Request.acceptedSkeleton abi)).getLast?.getD skeleton) := by
  rw [List.filterMap_append]
  cases h : r.acceptedSkeleton abi <;> simp [h]

theorem LastAccepted.concat {skeleton : Block} {requests : List Request} {p : DataProcessor ρ}
    {r : Request} (hp : LastAccepted abi skeleton requests p) (hr : ¬ r.Refused abi) (rest : ρ) :
    LastAccepted abi skeleton (requests ++ [r]) (r.stored abi p rest) where
  rgbFrame := by
    rw [getLast_frame requests, ← hp.rgbFrame]
    · rfl
    · exact fun hbody hnone => hr ⟨.frameColor, Or.inl rfl, hbody, hnone⟩
  depthFrame := by
    rw [getLast_frame requests, ← hp.depthFrame]
    · rfl
    · exact fun hbody hnone => hr ⟨.frameDepth, Or.inr rfl, hbody, hnone⟩
  skeleton := by
    rw [getLast_skeleton, ← hp.skeleton]
    rfl

theorem handle_lastAccepted (skeleton : Block) (rest : ρ) (requests : List Request)
    (hshort : ∀ r ∈ requests, r.Short) (hr : ∀ r ∈ requests, ¬ r.Refused abi)
    {p : DataProcessor ρ}
    (hp : handle abi processor (DataProcessor.start skeleton rest) requests = some p) :
    LastAccepted abi skeleton requests p := by
  induction requests using List.reverseRecOn generalizing p with
  | nil =>
    obtain rfl := Option.some.inj hp
    exact ⟨rfl, rfl, rfl⟩
  | append_singleton requests r ih =>
    have hmem : r ∈ requests ++ [r] := by simp
    rw [handle_concat] at hp
    obtain ⟨q, hq, hlast⟩ := Option.bind_eq_some_iff.mp hp
    rw [onRequest_eq abi q processor r (hshort r hmem), Option.map_map] at hlast
    obtain ⟨rest', _, rfl⟩ := Option.map_eq_some_iff.mp hlast
    exact (ih (fun r h => hshort r (List.mem_append_left _ h))
      (fun r h => hr r (List.mem_append_left _ h)) hq).concat (hr r hmem) rest'

/-- The request stores what it brings, and its detection gets through. -/
structure Request.Answerable (abi : Abi) (processor : Processor ρ) (r : Request) : Prop where
  short : r.Short
  not_refused : ¬ r.Refused abi
  inside : ∀ frame, r.acceptedFrame abi processor.detects = some frame → processor.Inside frame

theorem onRequest_answerable {r : Request} (h : r.Answerable abi processor)
    (p : DataProcessor ρ) :
    ∃ q, onRequest abi (some (processor.methods abi)) p r = some (q, r.processed abi) := by
  rw [onRequest_eq abi p processor r h.short]
  unfold Request.examine
  cases haccepted : r.acceptedFrame abi processor.detects with
  | none => exact ⟨_, rfl⟩
  | some frame =>
    obtain ⟨body, hframe, hok⟩ := Request.acceptedFrame_fromBuffer haccepted
    obtain ⟨rest, hrest⟩ :=
      processor.detect_of_inside p.rest hframe hok (h.inside frame haccepted)
    rw [Option.elim_some, hrest]
    exact ⟨_, rfl⟩

theorem handle_answerable (skeleton : Block) (rest : ρ) {requests : List Request}
    (h : ∀ r ∈ requests, r.Answerable abi processor) :
    ∃ p, handle abi processor (DataProcessor.start skeleton rest) requests = some p ∧
      LastAccepted abi skeleton requests p := by
  have hshort : ∀ r ∈ requests, r.Short := fun r hr => (h r hr).short
  have hthrough : processor.GetsThrough rest
      (requests.filterMap (Request.acceptedFrame abi processor.detects)) := by
    apply processor.getsThrough_of_inside
    intro frame hframe
    obtain ⟨r, hr, haccepted⟩ := List.mem_filterMap.mp hframe
    exact (h r hr).inside frame haccepted
  obtain ⟨p, hp⟩ := (@handle_isSome_iff _ abi processor (DataProcessor.start skeleton rest) requests
    hshort).mpr hthrough
  exact ⟨p, hp, handle_lastAccepted skeleton rest requests hshort
    (fun r hr => (h r hr).not_refused) hp⟩

end Runs

end KinectHelper.KinectServer
