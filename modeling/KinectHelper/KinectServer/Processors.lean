import KinectHelper.KinectServer.DataProcessor
import KinectHelper.KinectServer.DetectObject
import KinectHelper.KinectTypes.Packet
import KinectHelper.Segmentation.ObjectVector
import KinectHelper.Segmentation.PayloadReads

namespace KinectHelper

namespace PclDataProcessor

open PclObjectDetector (Camera Detector)
open PclSegmentation (cloudTurns CloudInside)

variable {P : Type*}

/-- The detector, and what its other threads leave for the calls of `Detect` still to come: a
detector, or a lock that is taken. -/
structure Members (P : Type*) where
  m_detector : Detector P
  found : Nat → Option (Detector P)

/-- `m_detector.Detect` -/
def detect (camera : Camera P) (frame : VideoFrame) (s : Members P) : Option (Members P) :=
  let found := fun i => s.found (i + 1)
  match s.found 0 with
  | none => some { s with found := found }
  | some d => (PclObjectDetector.detect camera frame (cloudTurns frame) d).map fun d => ⟨d, found⟩

theorem detect_found {camera : Camera P} {frame : VideoFrame} {s s' : Members P}
    (h : detect camera frame s = some s') : s'.found = fun i => s.found (i + 1) := by
  unfold detect at h
  dsimp only at h
  split at h
  · rw [← Option.some.inj h]
  · obtain ⟨d, _, rfl⟩ := Option.map_eq_some_iff.mp h
    rfl

/-- `Detect` returns with a lock that is taken, or from reads inside the payload. -/
theorem detect_isSome_iff (camera : Camera P) {abi : Abi} {buffer : Block} {bufsize : UInt32}
    {frame : VideoFrame} (hframe : VideoFrame.fromBuffer abi buffer bufsize = some frame)
    (hok : frame.isOK = true) (s : Members P) :
    (∃ s', detect camera frame s = some s') ↔ (s.found 0 ≠ none → CloudInside frame) := by
  have hends := PclSegmentation.createPointCloud_ends_iff
    (camera.point (PclSegmentation.toFloat frame.width) (PclSegmentation.toFloat frame.height))
    hframe hok
  unfold detect
  dsimp only
  cases hfound : s.found 0 with
  | none => simp
  | some d =>
    have hsome : (∃ s', (PclObjectDetector.detect camera frame (cloudTurns frame) d).map
        (fun d => (⟨d, fun i => s.found (i + 1)⟩ : Members P)) = some s') ↔
          CloudInside frame := by
      rw [← hends]
      unfold PclObjectDetector.detect
      dsimp only
      constructor
      · intro ⟨s', hs'⟩
        obtain ⟨d', hd', _⟩ := Option.map_eq_some_iff.mp hs'
        split at hd'
        · next points hdone => exact ⟨points, hdone⟩
        · exact absurd hd'.symm (Option.some_ne_none d')
      · intro ⟨points, hdone⟩
        rw [hdone]
        exact ⟨_, rfl⟩
    simpa using hsome

end PclDataProcessor

namespace KinectServer

open ObjectDetector
open PclSegmentation (CloudInside)

/-- The two processors, each over the members that its detection writes. -/
inductive Processor : Type → Type 1 where
  | simple {P K : Type} {length : Nat} [Field K] [LinearOrder K] (vision : Vision P K length)
      (m_objects : List (ObjectDefinition P K length)) : Processor (List JsonNode)
  | pcl {P : Type} (camera : PclObjectDetector.Camera P) : Processor (PclDataProcessor.Members P)

namespace Processor

def methods (abi : Abi) : ∀ {ρ : Type}, Processor ρ → Methods (DataProcessor ρ)
  | _, @simple _ _ _ _ _ vision m_objects =>
      SimpleDataProcessor.methods abi fun frame _ => vision.detectObject m_objects frame
  | _, .pcl camera => PclDataProcessor.methods abi (PclDataProcessor.detect camera)

/-- The frames that the detection gets. -/
def detects : ∀ {ρ : Type}, Processor ρ → KinectDataType
  | _, @simple _ _ _ _ _ _ _ => .frameColor
  | _, .pcl _ => .frameDepth

def detect : ∀ {ρ : Type}, Processor ρ → VideoFrame → ρ → Option ρ
  | _, @simple _ _ _ _ _ vision m_objects => fun frame _ => vision.detectObject m_objects frame
  | _, .pcl camera => PclDataProcessor.detect camera

/-- The detection stays inside the frame and ends. -/
def Inside : ∀ {ρ : Type}, Processor ρ → VideoFrame → Prop
  | _, @simple _ _ _ _ _ _ _ => ImageInside
  | _, .pcl _ => CloudInside

/-- The detection gets through these frames, one after the other. -/
def GetsThrough : ∀ {ρ : Type}, Processor ρ → ρ → List VideoFrame → Prop
  | _, @simple _ _ _ _ _ _ _, _, frames => ∀ frame ∈ frames, ImageInside frame
  | _, .pcl _, s, frames =>
      ∀ i frame, frames[i]? = some frame → s.found i ≠ none → CloudInside frame

variable {ρ : Type}

theorem detects_cases (processor : Processor ρ) :
    processor.detects = .frameColor ∨ processor.detects = .frameDepth := by
  cases processor with
  | simple vision m_objects => exact Or.inl rfl
  | pcl camera => exact Or.inr rfl

theorem getsThrough_nil (processor : Processor ρ) (rest : ρ) : processor.GetsThrough rest [] := by
  cases processor with
  | simple vision m_objects => exact nofun
  | pcl camera => exact nofun

theorem getsThrough_cons (processor : Processor ρ) (rest : ρ) {abi : Abi} {buffer : Block}
    {bufsize : UInt32} {frame : VideoFrame} (frames : List VideoFrame)
    (hframe : VideoFrame.fromBuffer abi buffer bufsize = some frame) (hok : frame.isOK = true) :
    processor.GetsThrough rest (frame::frames) ↔
      ∃ rest', processor.detect frame rest = some rest' ∧ processor.GetsThrough rest' frames := by
  cases processor with
  | simple vision m_objects =>
    have hdetect := vision.detectObject_isSome_iff m_objects hframe hok
    simp only [GetsThrough, detect, List.forall_mem_cons, ← hdetect]
    exact exists_and_right.symm
  | pcl camera =>
    have hdetect := PclDataProcessor.detect_isSome_iff camera hframe hok rest
    simp only [GetsThrough, detect]
    constructor
    · intro h
      obtain ⟨rest', hrest⟩ := hdetect.mpr (h 0 frame rfl)
      refine ⟨rest', hrest, ?_⟩
      intro i frame' hi hfound
      rw [PclDataProcessor.detect_found hrest] at hfound
      exact h (i + 1) frame' hi hfound
    · intro ⟨rest', hrest, h⟩ i frame' hi hfound
      cases i with
      | zero =>
        obtain rfl := Option.some.inj hi
        exact hdetect.mp ⟨rest', hrest⟩ hfound
      | succ i =>
        refine h i frame' hi ?_
        rw [PclDataProcessor.detect_found hrest]
        exact hfound

/-- Whatever locks are taken. -/
theorem getsThrough_of_inside (processor : Processor ρ) (rest : ρ) {frames : List VideoFrame}
    (h : ∀ frame ∈ frames, processor.Inside frame) : processor.GetsThrough rest frames := by
  cases processor with
  | simple vision m_objects => exact h
  | pcl camera => exact fun i frame hi _ => h frame (List.mem_of_getElem? hi)

theorem detect_of_inside (processor : Processor ρ) (rest : ρ) {abi : Abi} {buffer : Block}
    {bufsize : UInt32} {frame : VideoFrame}
    (hframe : VideoFrame.fromBuffer abi buffer bufsize = some frame) (hok : frame.isOK = true)
    (h : processor.Inside frame) : ∃ rest', processor.detect frame rest = some rest' := by
  have hthrough : processor.GetsThrough rest [frame] :=
    processor.getsThrough_of_inside rest (List.forall_mem_singleton.mpr h)
  obtain ⟨rest', hrest, _⟩ := (processor.getsThrough_cons rest [] hframe hok).mp hthrough
  exact ⟨rest', hrest⟩

end Processor

end KinectServer

end KinectHelper
