import KinectHelper.Framework.Number
import KinectHelper.Framework.Run
import KinectHelper.KinectServer.DataProcessor
import KinectHelper.KinectTypes.Packet

namespace KinectHelper.KinectServer

/-- The value of the `Kinect-Data` header, and the content of the input buffer. -/
structure Request where
  kinectData : Option String
  inputBuffer : Option Block
  deriving DecidableEq

def Request.packetType (abi : Abi) (request : Request) : Int :=
  match request.kinectData with
  | some packetTypeHeader => atoi abi.longBits packetTypeHeader.toList
  | none => KinectDataType.kinectDataNone.toInt

/-- The conversion of a `size_t` to `int`. -/
def intLength (n : Nat) : Int := (n : Int).bmod (2^32)

/-- `_OnRequest`: the processor afterwards and `processingResult`. -/
def onRequest {σ : Type*} (abi : Abi) (dataProcessor : Option (Methods σ)) (s : σ)
    (request : Request) : Option (σ × Bool) :=
  match request.inputBuffer with
  | none => some (s, false)
  | some bufferData =>
      let length := intLength bufferData.length
      if request.packetType abi = KinectDataType.connectionInit.toInt then some (s, false)
      else if request.packetType abi = KinectDataType.frameColor.toInt then
        match dataProcessor with
        | some m => m.processColorFrame s bufferData length
        | none => some (s, false)
      else if request.packetType abi = KinectDataType.frameDepth.toInt then
        match dataProcessor with
        | some m => m.processDepthFrame s bufferData length
        | none => some (s, false)
      else if request.packetType abi = KinectDataType.frameSkeleton.toInt then
        match dataProcessor with
        | some m => m.processSkeletonFrame s bufferData length
        | none => some (s, false)
      else some (s, false)

end KinectHelper.KinectServer
