import KinectHelper.Framework.Layout
import KinectHelper.KinectServer.DataProcessor

namespace KinectHelper

structure KinectPointVector where
  x : UInt32
  y : UInt32
  z : UInt32
  w : UInt32
  deriving DecidableEq

structure SkeletonDataType where
  eTrackingState : UInt32
  dwTrackingID : UInt32
  dwEnrollmentIndex_NotUsed : UInt32
  dwUserIndex : UInt32
  position : KinectPointVector
  skeletonPositions : Vector KinectPointVector nuiSkeletonPositionCount
  eSkeletonPositionTrackingState : Vector UInt32 nuiSkeletonPositionCount
  dwQualityFlags : UInt32
  deriving DecidableEq

structure SkeletonFrame where
  liTimeStamp : Int64
  dwFrameNumber : UInt64
  dwFlags : UInt64
  vFloorClipPlane : KinectPointVector
  vNormalToGravity : KinectPointVector
  skeletonData : Vector SkeletonDataType nuiSkeletonCount
  deriving DecidableEq

namespace KinectPointVector

def equiv : (UInt32 × UInt32) × UInt32 × UInt32 ≃ KinectPointVector where
  toFun := fun ((x, y), z, w) => ⟨x, y, z, w⟩
  invFun v := ((v.x, v.y), v.z, v.w)
  left_inv _ := rfl
  right_inv _ := rfl

def layout : Layout KinectPointVector :=
  ((Layout.word.pair .word (by decide) (by decide)).pair (Layout.word.pair .word (by decide)
    (by decide)) (by decide) (by decide)).as equiv

end KinectPointVector

namespace SkeletonDataType

def equiv : (UInt32 × UInt32 × UInt32 × UInt32) × KinectPointVector ×
    Vector KinectPointVector nuiSkeletonPositionCount ×
    Vector UInt32 nuiSkeletonPositionCount × UInt32 ≃ SkeletonDataType where
  toFun := fun ((state, id, enrollment, user), position, positions, states, quality) =>
    ⟨state, id, enrollment, user, position, positions, states, quality⟩
  invFun d := ((d.eTrackingState, d.dwTrackingID, d.dwEnrollmentIndex_NotUsed, d.dwUserIndex),
    d.position, d.skeletonPositions, d.eSkeletonPositionTrackingState, d.dwQualityFlags)
  left_inv _ := rfl
  right_inv _ := rfl

def words : Layout (UInt32 × UInt32 × UInt32 × UInt32) :=
  Layout.word.pair (Layout.word.pair (Layout.word.pair .word (by decide) (by decide)) (by decide)
    (by decide)) (by decide) (by decide)

def layout : Layout SkeletonDataType :=
  (words.pair (KinectPointVector.layout.pair
    ((KinectPointVector.layout.array nuiSkeletonPositionCount).pair
      ((Layout.word.array nuiSkeletonPositionCount).pair .word (by decide) (by decide))
      (by decide) (by decide)) (by decide) (by decide)) (by decide) (by decide)).as equiv

end SkeletonDataType

namespace SkeletonFrame

def equiv : (UInt64 × UInt64 × UInt64) × KinectPointVector × KinectPointVector ×
    Vector SkeletonDataType nuiSkeletonCount ≃ SkeletonFrame where
  toFun := fun ((time, number, flags), floor, normal, data) =>
    ⟨time.toInt64, number, flags, floor, normal, data⟩
  invFun f := ((f.liTimeStamp.toUInt64, f.dwFrameNumber, f.dwFlags), f.vFloorClipPlane,
    f.vNormalToGravity, f.skeletonData)
  left_inv _ := rfl
  right_inv _ := rfl

/-- The members follow each other without padding. -/
def layout : Layout SkeletonFrame :=
  ((Layout.longWord.pair (Layout.longWord.pair .longWord (by decide) (by decide)) (by decide)
    (by decide)).pair (KinectPointVector.layout.pair (KinectPointVector.layout.pair
      (SkeletonDataType.layout.array nuiSkeletonCount) (by decide) (by decide)) (by decide)
      (by decide)) (by decide) (by decide)).as equiv

theorem layout_size : layout.size = sizeofSkeletonFrame := rfl

end SkeletonFrame

end KinectHelper
