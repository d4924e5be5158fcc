import KinectHelper.KinectTypes.SkeletonFrame
import Mathlib.Data.List.Induction

namespace KinectHelper

structure NuiSkeletonData where
  eTrackingState : UInt32
  dwTrackingID : UInt32
  dwEnrollmentIndex : UInt32
  dwUserIndex : UInt32
  position : KinectPointVector
  skeletonPositions : Vector KinectPointVector nuiSkeletonPositionCount
  eSkeletonPositionTrackingState : Vector UInt32 nuiSkeletonPositionCount
  dwQualityFlags : UInt32
  deriving DecidableEq

/-- `NUI_SKELETON_FRAME`, with two words where `SkeletonFrame` has 64-bit ones. -/
structure NuiSkeletonFrame where
  liTimeStamp : Int64
  dwFrameNumber : UInt32
  dwFlags : UInt32
  vFloorClipPlane : KinectPointVector
  vNormalToGravity : KinectPointVector
  skeletonData : Vector NuiSkeletonData nuiSkeletonCount
  deriving DecidableEq

/-- `NUI_SKELETON_TRACKED` or `NUI_SKELETON_POSITION_ONLY`. -/
def NuiSkeletonData.isFound (data : NuiSkeletonData) : Bool :=
  data.eTrackingState = 2 || data.eTrackingState = 1

namespace KinectGrabberMSW

def convertData (origin : NuiSkeletonData) : SkeletonDataType where
  dwEnrollmentIndex_NotUsed := origin.dwEnrollmentIndex
  dwQualityFlags := origin.dwQualityFlags
  dwTrackingID := origin.dwTrackingID
  dwUserIndex := origin.dwUserIndex
  eTrackingState := origin.eTrackingState
  eSkeletonPositionTrackingState := origin.eSkeletonPositionTrackingState
  position := origin.position
  skeletonPositions := origin.skeletonPositions

def convertFrame (skeletonFrame : NuiSkeletonFrame) : SkeletonFrame where
  dwFlags := skeletonFrame.dwFlags.toUInt64
  dwFrameNumber := skeletonFrame.dwFrameNumber.toUInt64
  liTimeStamp := skeletonFrame.liTimeStamp
  vFloorClipPlane := skeletonFrame.vFloorClipPlane
  vNormalToGravity := skeletonFrame.vNormalToGravity
  skeletonData := skeletonFrame.skeletonData.map convertData

/-- What `ReadSkeletonFrame` works on. -/
structure SkeletonReader where
  /-- a `size_t` -/
  deviceIndex : Nat
  nuiInstance : Bool
  handler : Bool
  skeletonFrame : SkeletonFrame
  /-- the events added to the handler -/
  posted : Nat

/-- The results of the sensor in one call; `none` is a failure. -/
structure SkeletonResults where
  getNextFrame : Option NuiSkeletonFrame
  transformSmooth : NuiSkeletonFrame → Option NuiSkeletonFrame

def readSkeletonFrame (s : SkeletonReader) (r : SkeletonResults) : SkeletonReader × Bool :=
  if s.deviceIndex < 0 || !s.nuiInstance then (s, false) else
  match r.getNextFrame with
  | none => (s, false)
  | some skeletonFrame =>
      let bFoundSkeleton := skeletonFrame.skeletonData.toList.any NuiSkeletonData.isFound
      if !bFoundSkeleton then (s, false) else
      match r.transformSmooth skeletonFrame with
      | none => (s, false)
      | some skeletonFrame =>
          ({ s with
            skeletonFrame := convertFrame skeletonFrame
            posted := if s.handler then s.posted + 1 else s.posted }, true)

end KinectGrabberMSW

/-- `NUI_SKELETON_POSITION_INDEX`, in the order of the positions. -/
inductive SkeletonPositionIndex where
  | hipCenter
  | spine
  | shoulderCenter
  | head
  | shoulderLeft
  | elbowLeft
  | wristLeft
  | handLeft
  | shoulderRight
  | elbowRight
  | wristRight
  | handRight
  | hipLeft
  | kneeLeft
  | ankleLeft
  | footLeft
  | hipRight
  | kneeRight
  | ankleRight
  | footRight
  deriving DecidableEq

def SkeletonPositionIndex.toFin (index : SkeletonPositionIndex) : Fin nuiSkeletonPositionCount :=
  ⟨index.ctorIdx, by cases index <;> decide⟩

namespace SkeletonPainterImplMSW

def convertData (origin : SkeletonDataType) : NuiSkeletonData where
  dwEnrollmentIndex := origin.dwEnrollmentIndex_NotUsed
  dwQualityFlags := origin.dwQualityFlags
  dwTrackingID := origin.dwTrackingID
  dwUserIndex := origin.dwUserIndex
  eTrackingState := origin.eTrackingState
  eSkeletonPositionTrackingState := origin.eSkeletonPositionTrackingState
  position := origin.position
  skeletonPositions := origin.skeletonPositions

def convertFrame (skeletonFrame : SkeletonFrame) : NuiSkeletonFrame where
  dwFlags := skeletonFrame.dwFlags.toUInt32
  dwFrameNumber := skeletonFrame.dwFrameNumber.toUInt32
  liTimeStamp := skeletonFrame.liTimeStamp
  vFloorClipPlane := skeletonFrame.vFloorClipPlane
  vNormalToGravity := skeletonFrame.vNormalToGravity
  skeletonData := skeletonFrame.skeletonData.map convertData

abbrev Point := Int × Int

/-- What `DrawSkeleton` draws with: the projection onto the depth image, and the size of the
device context. -/
structure Canvas where
  transformSkeletonToDepthImage : KinectPointVector → Point
  width : Int
  height : Int

namespace Canvas

/-- A product of a `long` and an `int`, both of 32 bits. -/
def longProduct (a b : Int) : Int := (a * b).bmod (2^32)

/-- A position scaled from 320 by 240 pixels to the canvas. -/
def toPoint (canvas : Canvas) (position : KinectPointVector) : Point :=
  let (fx, fy) := canvas.transformSkeletonToDepthImage position
  ((longProduct fx canvas.width).tdiv 320, (longProduct fy canvas.height).tdiv 240)

/-- The same without a bound on the products. -/
def scaled (canvas : Canvas) (position : KinectPointVector) : Point :=
  let (fx, fy) := canvas.transformSkeletonToDepthImage position
  ((fx * canvas.width).tdiv 320, (fy * canvas.height).tdiv 240)

/-- The products of the position are numbers of 32 bits. -/
structure Fits (canvas : Canvas) (position : KinectPointVector) : Prop where
  column : -2^31 ≤ (canvas.transformSkeletonToDepthImage position).1 * canvas.width ∧
    (canvas.transformSkeletonToDepthImage position).1 * canvas.width < 2^31
  row : -2^31 ≤ (canvas.transformSkeletonToDepthImage position).2 * canvas.height ∧
    (canvas.transformSkeletonToDepthImage position).2 * canvas.height < 2^31

/-- The joints of the five segments. -/
def segments : List (List SkeletonPositionIndex) :=
  [[.hipCenter, .spine, .shoulderCenter, .head],
   [.shoulderCenter, .shoulderLeft, .elbowLeft, .wristLeft, .handLeft],
   [.shoulderCenter, .shoulderRight, .elbowRight, .wristRight, .handRight],
   [.hipCenter, .hipLeft, .kneeLeft, .ankleLeft, .footLeft],
   [.hipCenter, .hipRight, .kneeRight, .ankleRight, .footRight]]

/-- The points `DrawLines` joins. -/
def drawSkeletonSegment (points : Vector Point nuiSkeletonPositionCount)
    (joints : List SkeletonPositionIndex) : List Point :=
  joints.map fun joint => points[joint.toFin]

def drawSkeletonData (canvas : Canvas) (data : NuiSkeletonData) : List (List Point) :=
  let points := data.skeletonPositions.map canvas.toPoint
  segments.map (drawSkeletonSegment points)

/-- The polylines of a frame of the sensor. -/
def picture (canvas : Canvas) (frame : NuiSkeletonFrame) : List (List Point) :=
  (frame.skeletonData.toList.filter NuiSkeletonData.isFound).flatMap canvas.drawSkeletonData

def drawSkeleton (canvas : Canvas) (data : Option SkeletonFrame) : List (List Point) :=
  match data with
  | none => []
  | some frame => canvas.picture (convertFrame frame)

/-- The segments reach every position. -/
theorem segments_complete (i : Fin nuiSkeletonPositionCount) :
    ∃ joints ∈ segments, ∃ joint ∈ joints, joint.toFin = i := by
  decide +revert

theorem mem_drawSkeletonData (canvas : Canvas) (data : NuiSkeletonData) (point : Point) :
    (∃ line ∈ canvas.drawSkeletonData data, point ∈ line) ↔
      ∃ i : Fin nuiSkeletonPositionCount, canvas.toPoint data.skeletonPositions[i] = point := by
  constructor
  · intro h
    obtain ⟨line, hline, hpoint⟩ := h
    obtain ⟨joints, _, rfl⟩ := List.mem_map.mp hline
    obtain ⟨joint, _, rfl⟩ := List.mem_map.mp hpoint
    exact ⟨joint.toFin, by simp⟩
  · intro h
    obtain ⟨i, rfl⟩ := h
    obtain ⟨joints, hjoints, joint, hjoint, rfl⟩ := segments_complete i
    refine ⟨_, List.mem_map_of_mem hjoints, ?_⟩
    exact List.mem_map.mpr ⟨joint, hjoint, by simp⟩

/-- The polylines join the positions of the found skeletons, and no other points. -/
theorem mem_picture (canvas : Canvas) (frame : NuiSkeletonFrame) (point : Point) :
    (∃ line ∈ canvas.picture frame, point ∈ line) ↔
      ∃ data ∈ frame.skeletonData.toList, data.isFound = true ∧
        ∃ i : Fin nuiSkeletonPositionCount, canvas.toPoint data.skeletonPositions[i] = point := by
  constructor
  · intro h
    obtain ⟨line, hline, hpoint⟩ := h
    obtain ⟨data, hdata, hline⟩ := List.mem_flatMap.mp hline
    obtain ⟨hmem, hfound⟩ := List.mem_filter.mp hdata
    exact ⟨data, hmem, hfound, (canvas.mem_drawSkeletonData data point).mp ⟨line, hline, hpoint⟩⟩
  · intro h
    obtain ⟨data, hmem, hfound, hi⟩ := h
    obtain ⟨line, hline, hpoint⟩ := (canvas.mem_drawSkeletonData data point).mpr hi
    exact ⟨line, List.mem_flatMap.mpr ⟨data, List.mem_filter.mpr ⟨hmem, hfound⟩, hline⟩, hpoint⟩

theorem longProduct_exact {a b : Int} (h : -2^31 ≤ a * b ∧ a * b < 2^31) :
    longProduct a b = a * b := by
  have hmod : (a * b).bmod (2^32) = a * b := by
    rw [Int.bmod_def]
    split_ifs <;> omega
  exact hmod

theorem Fits.toPoint_eq {canvas : Canvas} {position : KinectPointVector}
    (h : canvas.Fits position) : canvas.toPoint position = canvas.scaled position := by
  have hx := longProduct_exact h.column
  have hy := longProduct_exact h.row
  simp only [toPoint, scaled, hx, hy]

/-- With products of 32 bits, the points are the positions in scale. -/
theorem mem_picture_scaled (canvas : Canvas) (frame : NuiSkeletonFrame)
    (hfits : ∀ data ∈ frame.skeletonData.toList, data.isFound = true →
      ∀ i : Fin nuiSkeletonPositionCount, canvas.Fits data.skeletonPositions[i]) (point : Point) :
    (∃ line ∈ canvas.picture frame, point ∈ line) ↔
      ∃ data ∈ frame.skeletonData.toList, data.isFound = true ∧
        ∃ i : Fin nuiSkeletonPositionCount, canvas.scaled data.skeletonPositions[i] = point := by
  rw [mem_picture]
  constructor
  · intro h
    obtain ⟨data, hmem, hfound, i, hi⟩ := h
    have hsame := (hfits data hmem hfound i).toPoint_eq
    exact ⟨data, hmem, hfound, i, hsame.symm.trans hi⟩
  · intro h
    obtain ⟨data, hmem, hfound, i, hi⟩ := h
    have hsame := (hfits data hmem hfound i).toPoint_eq
    exact ⟨data, hmem, hfound, i, hsame.trans hi⟩

theorem picture_length (canvas : Canvas) (frame : NuiSkeletonFrame) :
    (canvas.picture frame).length =
      5 * (frame.skeletonData.toList.countP NuiSkeletonData.isFound) := by
  unfold picture
  rw [List.countP_eq_length_filter]
  generalize frame.skeletonData.toList.filter NuiSkeletonData.isFound = found
  induction found with
  | nil => rfl
  | cons data found ih =>
    have hfive : (canvas.drawSkeletonData data).length = 5 := rfl
    rw [List.flatMap_cons, List.length_append, ih, hfive, List.length_cons]
    omega

end Canvas

theorem convertData_convertData (data : NuiSkeletonData) :
    convertData (KinectGrabberMSW.convertData data) = data := rfl

/-- The painter gets the frame of the sensor back. -/
theorem convertFrame_convertFrame (frame : NuiSkeletonFrame) :
    convertFrame (KinectGrabberMSW.convertFrame frame) = frame := by
  have hdata : (frame.skeletonData.map KinectGrabberMSW.convertData).map convertData =
      frame.skeletonData := by
    have hround : convertData ∘ KinectGrabberMSW.convertData = id := funext convertData_convertData
    rw [Vector.map_map, hround, Vector.map_id]
  unfold convertFrame KinectGrabberMSW.convertFrame
  dsimp only
  rw [hdata, UInt32.toUInt32_toUInt64, UInt32.toUInt32_toUInt64]

/-- The wire frame comes back from the painter's if its two 64-bit words are words. -/
theorem convertFrame_painter_iff (frame : SkeletonFrame) :
    KinectGrabberMSW.convertFrame (convertFrame frame) = frame ↔
      frame.dwFrameNumber.toNat < 2^32 ∧ frame.dwFlags.toNat < 2^32 := by
  have hdata : (frame.skeletonData.map convertData).map KinectGrabberMSW.convertData =
      frame.skeletonData := by
    rw [Vector.map_map]
    exact Vector.map_id frame.skeletonData
  have hword (n : UInt64) : n.toUInt32.toUInt64 = n ↔ n.toNat < 2^32 := by
    rw [← UInt64.toNat_inj, UInt32.toNat_toUInt64, UInt64.toNat_toUInt32]
    exact Nat.mod_eq_iff_lt (by decide)
  obtain ⟨time, number, flags, floor, normal, data⟩ := frame
  simp only [convertFrame, KinectGrabberMSW.convertFrame, SkeletonFrame.mk.injEq, hdata, hword,
    true_and, and_true]

/-- A frame of the sensor goes over the wire whole: its 2672 bytes are accepted, and what is
stored reads and converts back to it. Whatever is accepted is the image of exactly one frame, and
only a 64-bit frame number or flags beyond a word do not survive the painter. -/
theorem skeleton_round_trip {ρ : Type*} (p : DataProcessor ρ) (frame : NuiSkeletonFrame) :
    (∃ body, body = SkeletonFrame.layout.bytes (KinectGrabberMSW.convertFrame frame) ∧
      body.length = sizeofSkeletonFrame ∧
      p.processSkeletonFrame body body.length = some ({ p with skeleton := body }, true) ∧
      convertFrame (SkeletonFrame.layout.value body) = frame) ∧
    (∀ data length q, p.processSkeletonFrame data length = some (q, true) →
      ∃! f, SkeletonFrame.layout.bytes f = q.skeleton) ∧
    ∀ f : SkeletonFrame, KinectGrabberMSW.convertFrame (convertFrame f) = f ↔
      f.dwFrameNumber.toNat < 2^32 ∧ f.dwFlags.toNat < 2^32 := by
  refine ⟨?_, ?_, convertFrame_painter_iff⟩
  · have hlen := SkeletonFrame.layout.bytes_length (KinectGrabberMSW.convertFrame frame)
    rw [SkeletonFrame.layout_size] at hlen
    refine ⟨_, rfl, hlen, ?_, ?_⟩
    · unfold DataProcessor.processSkeletonFrame
      rw [if_pos (by exact_mod_cast hlen), Int.toNat_natCast, loadBytes_all, Option.map_some]
    · rw [SkeletonFrame.layout.value_bytes, convertFrame_convertFrame]
  · intro data length q h
    unfold DataProcessor.processSkeletonFrame at h
    split_ifs at h with hlength
    · obtain ⟨bytes, hload, hq⟩ := Option.map_eq_some_iff.mp h
      obtain ⟨hinside, hbytes⟩ := (loadBytes_eq_some_iff _ _ _ _).mp hload
      cases hq
      apply SkeletonFrame.layout.existsUnique_bytes
      rw [SkeletonFrame.layout_size, ← hbytes, List.length_take, List.length_drop]
      omega
    · cases h

open KinectGrabberMSW

/-- The frame that a call keeps: one with a skeleton, smoothed. -/
def frameRead (r : SkeletonResults) : Option NuiSkeletonFrame :=
  (r.getNextFrame.filter fun frame =>
    frame.skeletonData.toList.any NuiSkeletonData.isFound).bind r.transformSmooth

def readAll (s : SkeletonReader) (rs : List SkeletonResults) : SkeletonReader :=
  rs.foldl (fun s r => (readSkeletonFrame s r).1) s

theorem readSkeletonFrame_eq (s : SkeletonReader) (r : SkeletonResults)
    (hinstance : s.nuiInstance = true) :
    readSkeletonFrame s r = match frameRead r with
      | none => (s, false)
      | some frame => ({ s with
          skeletonFrame := KinectGrabberMSW.convertFrame frame
          posted := if s.handler then s.posted + 1 else s.posted }, true) := by
  unfold readSkeletonFrame frameRead
  rw [if_neg (by simp [hinstance])]
  cases hnext : r.getNextFrame with
  | none => rfl
  | some frame =>
    dsimp only
    cases hfound : frame.skeletonData.toList.any NuiSkeletonData.isFound with
    | false => simp [Option.filter, hfound]
    | true =>
      simp only [Option.filter, hfound, Bool.not_true, Bool.false_eq_true, if_false, if_true,
        Option.bind_some]

theorem readAll_spec (s : SkeletonReader) (rs : List SkeletonResults)
    (hinstance : s.nuiInstance = true) :
    readAll s rs = { s with
      skeletonFrame := ((rs.filterMap frameRead).getLast?.map
        KinectGrabberMSW.convertFrame).getD s.skeletonFrame
      posted := s.posted + if s.handler then (rs.filterMap frameRead).length else 0 } := by
  induction rs using List.reverseRecOn with
  | nil => simp [readAll]
  | append_singleton rs r ih =>
    have hstep : readAll s (rs ++ [r]) = (readSkeletonFrame (readAll s rs) r).1 := by
      rw [readAll, List.foldl_append]
      rfl
    rw [hstep, readSkeletonFrame_eq _ _ (by rw [ih]; exact hinstance), List.filterMap_append]
    cases hread : frameRead r with
    | none => simpa [hread] using ih
    | some frame =>
      rw [ih]
      cases s.handler <;> simp [hread, Nat.add_assoc]

/-- Whatever the sensor delivers and whichever calls fail: the picture that `OnSkeletonFrame` draws
is that of the last frame with a skeleton, as the sensor smoothed it, with five lines for each found
skeleton, and there is one event for each such frame. Where the products of the positions fit, the
lines go through the positions in scale and no other points. -/
theorem picture_of_last_read (canvas : Canvas) (s : SkeletonReader) (rs : List SkeletonResults)
    (hinstance : s.nuiInstance = true) :
    canvas.drawSkeleton (some (readAll s rs).skeletonFrame) =
        canvas.picture ((rs.filterMap frameRead).getLast?.getD (convertFrame s.skeletonFrame)) ∧
      (readAll s rs).posted =
        s.posted + (if s.handler then (rs.filterMap frameRead).length else 0) ∧
      ∀ frame, (canvas.picture frame).length =
          5 * frame.skeletonData.toList.countP NuiSkeletonData.isFound ∧
        ((∀ data ∈ frame.skeletonData.toList, data.isFound = true →
            ∀ i : Fin nuiSkeletonPositionCount, canvas.Fits data.skeletonPositions[i]) →
          ∀ point, (∃ line ∈ canvas.picture frame, point ∈ line) ↔
            ∃ data ∈ frame.skeletonData.toList, data.isFound = true ∧
              ∃ i : Fin nuiSkeletonPositionCount,
                canvas.scaled data.skeletonPositions[i] = point) := by
  have hspec := readAll_spec s rs hinstance
  refine ⟨?_, by rw [hspec], fun frame =>
    ⟨canvas.picture_length frame, canvas.mem_picture_scaled frame⟩⟩
  rw [hspec]
  unfold Canvas.drawSkeleton
  cases (rs.filterMap frameRead).getLast? with
  | none => rfl
  | some frame =>
    dsimp only [Option.map_some, Option.getD_some]
    rw [convertFrame_convertFrame]

/-- One tracked skeleton, with its positions on a diagonal. -/
def oneSkeleton : NuiSkeletonFrame :=
  let origin : KinectPointVector := ⟨0, 0, 0, 0⟩
  let positions := Vector.ofFn fun i : Fin nuiSkeletonPositionCount =>
    (⟨UInt32.ofNat i, UInt32.ofNat i, 0, 0⟩ : KinectPointVector)
  let data (state : UInt32) : NuiSkeletonData :=
    ⟨state, 0, 0, 0, origin, positions, Vector.replicate _ 0, 0⟩
  ⟨0, 0, 0, origin, origin, (Vector.replicate _ (data 0)).set 0 (data 2)⟩

def wordCanvas : Canvas := ⟨fun v => (v.x.toNat, v.y.toNat), 640, 480⟩

def skeletonReader : SkeletonReader :=
  ⟨0, true, true, KinectGrabberMSW.convertFrame oneSkeleton, 0⟩

/-- A frame with a skeleton, and a failure. -/
def twoReads : List SkeletonResults := [⟨some oneSkeleton, some⟩, ⟨none, some⟩]

instance (canvas : Canvas) (position : KinectPointVector) : Decidable (canvas.Fits position) :=
  decidable_of_iff (_ ∧ _) ⟨fun h => ⟨h.1, h.2⟩, fun h => ⟨h.column, h.row⟩⟩

theorem oneSkeleton_fits : ∀ data ∈ oneSkeleton.skeletonData.toList, data.isFound = true →
    ∀ i : Fin nuiSkeletonPositionCount, wordCanvas.Fits data.skeletonPositions[i] := by
  decide +kernel

theorem one_skeleton_drawn :
    oneSkeleton.skeletonData.toList.countP NuiSkeletonData.isFound = 1 ∧
    wordCanvas.drawSkeleton (some (readAll skeletonReader twoReads).skeletonFrame) =
        wordCanvas.picture ((twoReads.filterMap frameRead).getLast?.getD
          (convertFrame skeletonReader.skeletonFrame)) ∧
      (readAll skeletonReader twoReads).posted = 1 ∧
      (wordCanvas.picture oneSkeleton).length = 5 ∧
      ∀ point, (∃ line ∈ wordCanvas.picture oneSkeleton, point ∈ line) ↔
        ∃ data ∈ oneSkeleton.skeletonData.toList, data.isFound = true ∧
          ∃ i : Fin nuiSkeletonPositionCount,
            wordCanvas.scaled data.skeletonPositions[i] = point := by
  obtain ⟨hpicture, hposted, hframes⟩ :=
    picture_of_last_read wordCanvas skeletonReader twoReads rfl
  obtain ⟨hlength, hpoints⟩ := hframes oneSkeleton
  have hone : oneSkeleton.skeletonData.toList.countP NuiSkeletonData.isFound = 1 := by decide
  have hread : (twoReads.filterMap frameRead).length = 1 := by decide +kernel
  rw [hone] at hlength
  rw [hread] at hposted
  exact ⟨hone, hpicture, hposted, hlength, hpoints oneSkeleton_fits⟩

end SkeletonPainterImplMSW

end KinectHelper
