import Mathlib.Data.Fin.VecNotation
import KinectHelper.Framework.Memory
import KinectHelper.ObjDetector.ObjectDetector

namespace KinectHelper

/-- An image of `width * height` pixels of `nChannels` bytes; each row takes `widthStep` bytes. -/
structure IplImage where
  width : Nat
  height : Nat
  nChannels : Nat
  widthStep : Nat
  imageSize : Nat
  imageData : Block
  imageData_length : imageData.length = imageSize

/-- The bytes of a row, rounded up to a multiple of 4. -/
def alignedRow (n : Nat) : Nat := (n + 3) / 4 * 4

/-- The image has this size, and rows of whole words; the size of its data is an `int`. -/
structure IplImage.Sized (img : IplImage) (w h c : Nat) : Prop where
  width : img.width = w
  height : img.height = h
  nChannels : img.nChannels = c
  widthStep : img.widthStep = alignedRow (w * c)
  imageSize : img.imageSize = alignedRow (w * c) * h
  int : img.imageSize < 2^31

/-- The functions of OpenCV whose results the code indexes, with what it relies on. -/
structure OpenCV where
  /-- for samples of 8 bits; `none` is an error -/
  cvCreateImage : Nat → Nat → Nat → Option IplImage
  /-- the place of the element in a sequence of this length; `none` is NULL -/
  cvGetSeqElem : Nat → Int → Option Nat
  created : ∀ {w h c img}, cvCreateImage w h c = some img → img.Sized w h c
  creates : ∀ {w h c}, 0 < w → 0 < h → 0 < c → alignedRow (w * c) * h < 2^31 →
    ∃ img, cvCreateImage w h c = some img
  element : ∀ {total k : Nat}, k < total → cvGetSeqElem total k = some k
  inside : ∀ {total k : Nat} {index : Int}, cvGetSeqElem total index = some k → k < total

/-- The image that `ObjectDefinition(width, height, 8, nchannels, data)` makes; `none` is also a
copy that leaves `data`. -/
def importImage (cv : OpenCV) (width height nchannels : Nat) (data : Block) :
    Option IplImage := do
  let img ← cv.cvCreateImage width height nchannels
  let bytes ← loadBytes data 0 img.imageSize
  if h : bytes.length = img.imageSize
  then some { img with imageData := bytes, imageData_length := h } else none

@[ext]
structure CvPoint where
  x : Int
  y : Int
  deriving DecidableEq

/-- A definition whose keypoint and descriptor sequences are not NULL. -/
structure ObjectDefinition (P K : Type*) (length : Nat) where
  features : ObjectDetector.Features P K length
  corners : Fin 4 → CvPoint
  filename : String
  name : String

namespace ObjectDefinition

variable {P K : Type*} {length : Nat}

def getName (o : ObjectDefinition P K length) : String := if o.name = "" then o.filename else o.name

/-- `Init`; `extractSURF` also stands for the conversion to grey, and `none` for an error. -/
def ofImage (extractSURF : IplImage → Option (ObjectDetector.Features P K length))
    (image : IplImage) : Option (ObjectDefinition P K length) :=
  (extractSURF image).map fun features => {
    features := features
    corners := ![⟨0, 0⟩, ⟨image.width, 0⟩, ⟨image.width, image.height⟩, ⟨0, image.height⟩]
    filename := ""
    name := "" }

end ObjectDefinition

section Documented

/-- An image in rows of whole words. -/
def alignedImage (w h c : Nat) : Option IplImage :=
  let imageSize := alignedRow (w * c) * h
  if imageSize < 2^31 then
    some ⟨w, h, c, alignedRow (w * c), imageSize, zeros imageSize, zeros_length imageSize⟩
  else none

theorem alignedImage_created {w h c : Nat} {img : IplImage}
    (himg : alignedImage w h c = some img) : img.Sized w h c := by
  unfold alignedImage at himg
  dsimp only at himg
  split_ifs at himg with hint
  rw [← Option.some.inj himg]
  exact ⟨rfl, rfl, rfl, rfl, rfl, hint⟩

theorem alignedImage_creates {w h c : Nat} (hint : alignedRow (w * c) * h < 2^31) :
    ∃ img, alignedImage w h c = some img :=
  ⟨_, if_pos hint⟩

def placeIn (total : Nat) (index : Int) : Option Nat :=
  if 0 ≤ index ∧ index < total then some index.toNat else none

/-- An index outside of the sequence counts from the other end of it. -/
def seqPlace (total : Nat) (index : Int) : Option Nat :=
  let wrapped := index + (if index < 0 then (total : Int) else 0)
  let wrapped := wrapped - (if (total : Int) ≤ wrapped then (total : Int) else 0)
  (placeIn total index).or (placeIn total wrapped)

theorem placeIn_inside {total k : Nat} {index : Int} (h : placeIn total index = some k) :
    k < total := by
  obtain ⟨hinside, hk⟩ := Option.ite_none_right_eq_some.mp h
  have hplace : index.toNat = k := Option.some.inj hk
  omega

theorem seqPlace_element {total k : Nat} (h : k < total) : seqPlace total k = some k := by
  have hplace : placeIn total k = some k := if_pos (by omega)
  unfold seqPlace
  rw [hplace]
  rfl

theorem seqPlace_inside {total k : Nat} {index : Int} (h : seqPlace total index = some k) :
    k < total := by
  rcases Option.or_eq_some_iff.mp h with hplace | ⟨_, hplace⟩
  · exact placeIn_inside hplace
  · exact placeIn_inside hplace

def documentedCV : OpenCV where
  cvCreateImage := alignedImage
  cvGetSeqElem := seqPlace
  created := alignedImage_created
  creates := fun _ _ _ => alignedImage_creates
  element := seqPlace_element
  inside := seqPlace_inside

end Documented

end KinectHelper
