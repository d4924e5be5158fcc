import KinectHelper.Framework.Memory

namespace KinectHelper

inductive KinectDataType where
  | connectionInit
  | frameColor
  | frameDepth
  | frameSkeleton
  | kinectDataNone
  deriving DecidableEq

def KinectDataType.toInt : KinectDataType → Int
  | .connectionInit => 0
  | .frameColor => 1
  | .frameDepth => 2
  | .frameSkeleton => 3
  | .kinectDataNone => 4

/-- The bytes and the type of one request. -/
structure Packet where
  data : Block
  type : KinectDataType
  deriving DecidableEq

end KinectHelper
