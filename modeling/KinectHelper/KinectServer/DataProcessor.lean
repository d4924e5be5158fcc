import KinectHelper.KinectTypes.VideoFrame

namespace KinectHelper

def nuiSkeletonCount : Nat := 6

def nuiSkeletonPositionCount : Nat := 20

/-- `sizeof(SkeletonFrame)`: three 64-bit words, two vectors, and for each skeleton four words,
its position, the joints with their tracking states, and the quality flags. -/
def sizeofSkeletonFrame : Nat :=
  3 * 8 + 2 * 16 + nuiSkeletonCount *
    (4 * 4 + 16 + nuiSkeletonPositionCount * 16 + nuiSkeletonPositionCount * 4 + 4)

/-- `(uint32_t) length`. -/
def toUInt32 (length : Int) : UInt32 := UInt32.ofNat (length % 2^32).toNat

/-- The members of `SimpleDataProcessor` and of `PclDataProcessor`. What the detection works
on and writes is `rest`. -/
structure DataProcessor (ρ : Type*) where
  rgbFrame : Option VideoFrame
  depthFrame : Option VideoFrame
  skeleton : Block
  rest : ρ

/-- The virtual functions of `KinectDataProcessorBase`. The result is `none` for a fault or a
loop that does not end. -/
structure Methods (σ : Type*) where
  processColorFrame : σ → Block → Int → Option (σ × Bool)
  processDepthFrame : σ → Block → Int → Option (σ × Bool)
  processSkeletonFrame : σ → Block → Int → Option (σ × Bool)

namespace DataProcessor

variable {ρ : Type*}

/-- After the constructor; it does not initialise the skeleton. -/
def start (skeleton : Block) (rest : ρ) : DataProcessor ρ := ⟨none, none, skeleton, rest⟩

def setRgbFrame (p : DataProcessor ρ) (frame : VideoFrame) : DataProcessor ρ :=
  { p with rgbFrame := some frame }

def setDepthFrame (p : DataProcessor ρ) (frame : VideoFrame) : DataProcessor ρ :=
  { p with depthFrame := some frame }

/-- The old frame gives way to the new one, which is examined if it is good. -/
def processVideoFrame (abi : Abi) (set : DataProcessor ρ → VideoFrame → DataProcessor ρ)
    (examine : VideoFrame → ρ → Option ρ) (p : DataProcessor ρ) (data : Block) (length : Int) :
    Option (DataProcessor ρ × Bool) :=
  (VideoFrame.fromBuffer abi data (toUInt32 length)).bind fun frame =>
    let p := set p frame
    if frame.isOK then
      (examine frame p.rest).map fun rest => ({ p with rest := rest }, frame.isOK)
    else some (p, frame.isOK)

def processSkeletonFrame (p : DataProcessor ρ) (data : Block) (length : Int) :
    Option (DataProcessor ρ × Bool) :=
  if length = sizeofSkeletonFrame then
    (loadBytes data 0 length.toNat).map fun bytes => ({ p with skeleton := bytes }, true)
  else some (p, false)

end DataProcessor

namespace SimpleDataProcessor

variable {ρ : Type*} (abi : Abi) (detectObject : VideoFrame → ρ → Option ρ)

def processColorFrame : DataProcessor ρ → Block → Int → Option (DataProcessor ρ × Bool) :=
  DataProcessor.processVideoFrame abi DataProcessor.setRgbFrame detectObject

def processDepthFrame : DataProcessor ρ → Block → Int → Option (DataProcessor ρ × Bool) :=
  DataProcessor.processVideoFrame abi DataProcessor.setDepthFrame fun _ => some

def methods : Methods (DataProcessor ρ) where
  processColorFrame := processColorFrame abi detectObject
  processDepthFrame := processDepthFrame abi
  processSkeletonFrame := DataProcessor.processSkeletonFrame

end SimpleDataProcessor

namespace PclDataProcessor

variable {ρ : Type*} (abi : Abi) (detect : VideoFrame → ρ → Option ρ)

def processColorFrame : DataProcessor ρ → Block → Int → Option (DataProcessor ρ × Bool) :=
  DataProcessor.processVideoFrame abi DataProcessor.setRgbFrame fun _ => some

def processDepthFrame : DataProcessor ρ → Block → Int → Option (DataProcessor ρ × Bool) :=
  DataProcessor.processVideoFrame abi DataProcessor.setDepthFrame detect

def methods : Methods (DataProcessor ρ) where
  processColorFrame := processColorFrame abi
  processDepthFrame := processDepthFrame abi detect
  processSkeletonFrame := DataProcessor.processSkeletonFrame

end PclDataProcessor

end KinectHelper
