import Mathlib.Algebra.Order.Round
import Mathlib.Data.Rat.Floor
import KinectHelper.ObjDetector.FindPairs
import KinectHelper.ObjDetector.ImportedImage
import KinectHelper.ObjDetector.LocateObject

namespace KinectHelper

open ObjectDetector

/-- A `JSONNode` with its name. -/
inductive JsonNode where
  | string (name : String) (value : String)
  | number (name : String) (value : Int)
  | array (name : String) (nodes : List JsonNode)

variable {P K : Type*} {length : Nat}

/-- The nodes of a corner; the array of the point stays empty. -/
def cornerNodes (corner : CvPoint) : List JsonNode :=
  [.number "" corner.x, .number "" corner.y, .array "" []]

/-- The nodes that an object with these corners is recorded as. -/
def ObjectDefinition.located (o : ObjectDefinition P K length) (corners : Fin 4 → CvPoint) :
    List JsonNode :=
  let jsonCorners := (List.finRange 4).flatMap fun i => cornerNodes (corners i)
  [.string "name" o.getName, .array "corners" jsonCorners]

/-- One turn of the loop of `DetectObject`; `none` is a fault. -/
def locateStep (locate : ObjectDefinition P K length → Option (Option (Fin 4 → CvPoint)))
    (m_jsonLocated : List JsonNode) (o : ObjectDefinition P K length) : Option (List JsonNode) :=
  (locate o).map fun found =>
    match found with
    | some corners => m_jsonLocated ++ o.located corners
    | none => m_jsonLocated

/-- `featImg` of a frame. -/
def frameDefinition (cv : OpenCV) (extractSURF : IplImage → Option (Features P K length))
    (frame : VideoFrame) : Option (ObjectDefinition P K length) :=
  (importFrame cv frame).bind (ObjectDefinition.ofImage extractSURF)

/-- `DetectObject`, with what it leaves in `m_jsonLocated`. -/
def detectObject [Field K] [LinearOrder K] (cv : OpenCV)
    (extractSURF : IplImage → Option (Features P K length)) (knnSearch : KnnSearch K)
    (findHomography : FindHomography P K) (cvRound : K → Int)
    (m_objects : List (ObjectDefinition P K length)) (frame : VideoFrame) :
    Option (List JsonNode) :=
  (frameDefinition cv extractSURF frame).bind fun featImg =>
    m_objects.foldlM (locateStep (locateObject cv knnSearch findHomography cvRound featImg)) []

/-- What `DetectObject` calls, with what it relies on. -/
structure Vision (P K : Type*) (length : Nat) [Field K] [LinearOrder K] extends OpenCV where
  extractSURF : IplImage → Option (Features P K length)
  knnSearch : KnnSearch K
  findHomography : FindHomography P K
  cvRound : K → Int
  /-- an image is grey, or has the three channels of which a grey one is made -/
  extracts : ∀ img, (extractSURF img).isSome = true ↔ img.nChannels = 1 ∨ img.nChannels = 3
  /-- a row that passes names a row of the index -/
  searches : ∀ m_image m_object i, i < m_object.length → (knnSearch m_image m_object i).Passes →
    ∃ k < m_image.length, (knnSearch m_image m_object i).index0 = k

/-- In list order, the objects that `locate` finds, with their corners. -/
def RecordsLocated (locate : ObjectDefinition P K length → Option (Option (Fin 4 → CvPoint)))
    (objects : List (ObjectDefinition P K length)) (json : List JsonNode) : Prop :=
  (∀ o ∈ objects, locate o ≠ none) ∧
    json = objects.flatMap fun o => (locate o).join.elim [] o.located

/-- With any matcher, the records are those of the objects that it locates in the frame. -/
def DetectsRight [Field K] [LinearOrder K] (cv : OpenCV)
    (extractSURF : IplImage → Option (Features P K length)) (cvRound : K → Int)
    (objects : List (ObjectDefinition P K length)) (frame : VideoFrame) : Prop :=
  ∃ featImg, frameDefinition cv extractSURF frame = some featImg ∧
    ∀ knnSearch findHomography json,
      detectObject cv extractSURF knnSearch findHomography cvRound objects frame = some json ↔
        RecordsLocated (fun o => locatePlanarObject cv knnSearch findHomography cvRound o.features
          featImg.features o.corners) objects json

/-- Nothing to match on either side, or the same on both. -/
def Interchangeable (o featImg : ObjectDefinition P K length) : Prop :=
  (o.features.total < 4 ∧ featImg.features.total < 4) ∨
    (o.features.descriptors = featImg.features.descriptors ∧
      o.features.points = featImg.features.points ∧ o.corners = featImg.corners)

section Records

variable {locate locate' : ObjectDefinition P K length → Option (Option (Fin 4 → CvPoint))}
variable {objects : List (ObjectDefinition P K length)} {json : List JsonNode}

theorem locateStep_eq (acc : List JsonNode) (o : ObjectDefinition P K length) :
    locateStep locate acc o = (locate o).map fun found => acc ++ found.elim [] o.located := by
  unfold locateStep
  congr 1
  funext found
  cases found with
  | none => exact (List.append_nil acc).symm
  | some corners => rfl

theorem foldlM_locateStep_iff (acc : List JsonNode) :
    objects.foldlM (locateStep locate) acc = some json ↔
      (∀ o ∈ objects, locate o ≠ none) ∧
        json = acc ++ objects.flatMap fun o => (locate o).join.elim [] o.located := by
  induction objects generalizing acc with
  | nil => simp [eq_comm]
  | cons o objects ih =>
    rw [List.foldlM_cons, locateStep_eq, List.forall_mem_cons, List.flatMap_cons,
      ← List.append_assoc]
    cases hlocate : locate o with
    | none => simp
    | some found =>
      rw [Option.map_some, Option.bind_eq_bind, Option.bind_some, ih]
      simp

theorem detectObject_eq_some_iff [Field K] [LinearOrder K] {cv : OpenCV}
    {extractSURF : IplImage → Option (Features P K length)} {knnSearch : KnnSearch K}
    {findHomography : FindHomography P K} {cvRound : K → Int} {frame : VideoFrame}
    {featImg : ObjectDefinition P K length}
    (hfeat : frameDefinition cv extractSURF frame = some featImg) :
    detectObject cv extractSURF knnSearch findHomography cvRound objects frame = some json ↔
      RecordsLocated (locateObject cv knnSearch findHomography cvRound featImg) objects json := by
  rw [detectObject, hfeat, Option.bind_some, foldlM_locateStep_iff, List.nil_append]
  rfl

theorem recordsLocated_congr (h : ∀ o ∈ objects, locate o = locate' o) :
    RecordsLocated locate objects json ↔ RecordsLocated locate' objects json := by
  have hnodes : (objects.flatMap fun o => (locate o).join.elim [] o.located) =
      objects.flatMap fun o => (locate' o).join.elim [] o.located := by
    apply List.flatMap_congr
    intro o ho
    rw [h o ho]
  unfold RecordsLocated
  rw [hnodes]
  constructor
  · intro ⟨hfound, hjson⟩
    exact ⟨fun o ho => h o ho ▸ hfound o ho, hjson⟩
  · intro ⟨hfound, hjson⟩
    exact ⟨fun o ho => (h o ho).symm ▸ hfound o ho, hjson⟩

/-- No nodes are recorded if and only if nothing is found. -/
theorem recordsLocated_nil_iff :
    RecordsLocated locate objects [] ↔ ∀ o ∈ objects, locate o = some none := by
  constructor
  · intro ⟨hfound, hjson⟩ o ho
    have hnodes := List.flatMap_eq_nil_iff.mp hjson.symm o ho
    match hlocate : locate o with
    | none => exact absurd hlocate (hfound o ho)
    | some none => rfl
    | some (some corners) =>
      rw [hlocate] at hnodes
      exact absurd hnodes (List.cons_ne_nil _ _)
  · intro h
    constructor
    · intro o ho
      rw [h o ho]
      exact Option.some_ne_none _
    · symm
      rw [List.flatMap_eq_nil_iff]
      intro o ho
      rw [h o ho]
      rfl

theorem flatMap_inj {α β : Type*} {f g : α → List β} {l : List α}
    (hlength : ∀ a ∈ l, (f a).length = (g a).length) (h : l.flatMap f = l.flatMap g) :
    ∀ a ∈ l, f a = g a := by
  induction l with
  | nil => simp
  | cons b l ih =>
    rw [List.forall_mem_cons] at hlength ⊢
    obtain ⟨hhead, htail⟩ := List.append_inj h hlength.1
    exact ⟨hhead, ih hlength.2 htail⟩

theorem located_injective (o : ObjectDefinition P K length) :
    Function.Injective o.located := by
  intro corners corners' h
  simp only [ObjectDefinition.located, List.cons.injEq, JsonNode.array.injEq, true_and,
    and_true] at h
  funext i
  have hnodes : cornerNodes (corners i) = cornerNodes (corners' i) :=
    flatMap_inj (f := fun i => cornerNodes (corners i)) (g := fun i => cornerNodes (corners' i))
      (fun _ _ => rfl) h i (List.mem_finRange i)
  simp only [cornerNodes, List.cons.injEq, JsonNode.number.injEq, true_and] at hnodes
  exact CvPoint.ext hnodes.1 hnodes.2.1

end Records

section Matchers

variable [Field K] [LinearOrder K] [IsStrictOrderedRing K]

open Classical in
/-- The rows of one pair of matrices pass the ratio test. -/
noncomputable def searchFor (image object : List (List K)) (index : Nat → Int) : KnnSearch K :=
  fun m_image m_object i =>
    if m_image = image ∧ m_object = object then ⟨index i, 0, 0, 1⟩ else ⟨0, 0, 1, 1⟩

theorem searchFor_passes (image object : List (List K)) (index : Nat → Int) (i : Nat) :
    (searchFor image object index image object i).Passes ∧
      (searchFor image object index image object i).index0 = index i := by
  unfold searchFor
  rw [if_pos ⟨rfl, rfl⟩]
  refine ⟨?_, rfl⟩
  change (0 : K) < 3/5 * 1
  norm_num

theorem searchFor_other {image object image' object' : List (List K)} {index : Nat → Int}
    (hne : ¬ (image' = image ∧ object' = object)) (i : Nat) :
    ¬ (searchFor image object index image' object' i).Passes := by
  unfold searchFor
  rw [if_neg hne]
  change ¬ (1 : K) < 3/5 * 1
  norm_num

def identityMatrix : Fin 9 → K := ![1, 0, 0, 0, 1, 0, 0, 0, 1]

theorem mapCorner_identity {cvRound : K → Int} (hround : ∀ n : Int, cvRound n = n)
    (corner : CvPoint) : mapCorner cvRound identityMatrix corner = corner := by
  simp [mapCorner, identityMatrix, hround]

variable {cv : OpenCV} {cvRound : K → Int} {featImg o : ObjectDefinition P K length}
variable {objects : List (ObjectDefinition P K length)}

/-- Both directions of the matcher record the same. -/
def SameRecords (cv : OpenCV) (cvRound : K → Int) (featImg : ObjectDefinition P K length)
    (objects : List (ObjectDefinition P K length)) : Prop :=
  ∀ knnSearch findHomography json,
    RecordsLocated (locateObject cv knnSearch findHomography cvRound featImg) objects json ↔
      RecordsLocated (fun o => locatePlanarObject cv knnSearch findHomography cvRound o.features
        featImg.features o.corners) objects json

theorem descriptors_eq (h : SameRecords cv cvRound featImg objects) (ho : o ∈ objects)
    (hmany : ¬ (o.features.total < 4 ∧ featImg.features.total < 4)) :
    o.features.descriptors = featImg.features.descriptors := by
  by_contra hne
  by_cases hfeat : 4 ≤ featImg.features.total
  · have hnil := h (searchFor o.features.descriptors featImg.features.descriptors fun _ => 0)
      (fun _ _ => some identityMatrix) []
    rw [recordsLocated_nil_iff, recordsLocated_nil_iff] at hnil
    refine locatePlanarObject_all hfeat (fun i => (searchFor_passes _ _ _ i).1)
      (fun _ _ => Option.some_ne_none _) (hnil.mpr ?_ o ho)
    intro o' _
    exact locatePlanarObject_none (searchFor_other fun hsame => hne hsame.1.symm)
  · have hnil := h (searchFor featImg.features.descriptors o.features.descriptors fun _ => 0)
      (fun _ _ => some identityMatrix) []
    rw [recordsLocated_nil_iff, recordsLocated_nil_iff] at hnil
    refine locatePlanarObject_all (by omega) (fun i => (searchFor_passes _ _ _ i).1)
      (fun _ _ => Option.some_ne_none _) (hnil.mp ?_ o ho)
    intro o' _
    exact locatePlanarObject_none (searchFor_other fun hsame => hne hsame.2.symm)

/-- The search that pairs each feature of `featImg` with the one of its index. -/
noncomputable def selfSearch (featImg : ObjectDefinition P K length) : KnnSearch K :=
  searchFor featImg.features.descriptors featImg.features.descriptors fun i => i

variable {findHomography : FindHomography P K} {corners : Fin 4 → CvPoint}

theorem locate_selfSearch {object image : Features P K length}
    (hmany : 4 ≤ featImg.features.total)
    (hobject : object.descriptors = featImg.features.descriptors)
    (himage : image.descriptors = featImg.features.descriptors) :
    locatePlanarObject cv (selfSearch featImg) findHomography cvRound object image corners =
      some ((findHomography object.points image.points).map
        fun h i => mapCorner cvRound h (corners i)) := by
  have htotal : object.total = featImg.features.total := by
    rw [← object.descriptors_length, hobject, Features.descriptors_length]
  have htotal' : image.total = featImg.features.total := by
    rw [← image.descriptors_length, himage, Features.descriptors_length]
  refine locatePlanarObject_self (by omega) (by omega) ?_
  rw [hobject, himage]
  exact searchFor_passes _ _ _

theorem points_eq (h : SameRecords cv cvRound featImg objects) (ho : o ∈ objects)
    (hmany : 4 ≤ featImg.features.total)
    (hdescriptors : o.features.descriptors = featImg.features.descriptors) :
    o.features.points = featImg.features.points := by
  classical
  by_contra hne
  -- a homography from the points of the frame to those of the object, and no other
  have hnil := h (selfSearch featImg)
    (fun pt1 pt2 => if pt1 = featImg.features.points ∧ pt2 = o.features.points
      then some identityMatrix else none) []
  rw [recordsLocated_nil_iff, recordsLocated_nil_iff] at hnil
  have hfound := hnil.mpr ?_ o ho
  · rw [locateObject, locate_selfSearch hmany rfl hdescriptors, if_pos ⟨rfl, rfl⟩] at hfound
    exact Option.some_ne_none _ (Option.some.inj hfound)
  · intro o' _
    by_cases hsame : o'.features.descriptors = featImg.features.descriptors
    · rw [locate_selfSearch hmany hsame rfl, if_neg fun hpoints => hne hpoints.2.symm]
      rfl
    · exact locatePlanarObject_none (searchFor_other fun hother => hsame hother.2)

theorem mapCorner_all_identity (hround : ∀ n : Int, cvRound n = n) :
    (fun i => mapCorner cvRound identityMatrix (corners i)) = corners := by
  funext i
  exact mapCorner_identity hround (corners i)

theorem corners_eq (hround : ∀ n : Int, cvRound n = n)
    (h : SameRecords cv cvRound featImg objects) (ho : o ∈ objects)
    (hmany : 4 ≤ featImg.features.total)
    (hdescriptors : o.features.descriptors = featImg.features.descriptors) :
    o.corners = featImg.corners := by
  classical
  let same := fun o' : ObjectDefinition P K length =>
    o'.features.descriptors = featImg.features.descriptors
  let findHomography : FindHomography P K := fun _ _ => some identityMatrix
  have hcode : ∀ o', locateObject cv (selfSearch featImg) findHomography cvRound featImg o' =
      some (if same o' then some featImg.corners else none) := by
    intro o'
    by_cases hsame : same o'
    · rw [locateObject, locate_selfSearch hmany rfl hsame, if_pos hsame, Option.map_some,
        mapCorner_all_identity hround]
    · rw [if_neg hsame]
      exact locatePlanarObject_none (searchFor_other fun hother => hsame hother.1)
  have hdue : ∀ o', locatePlanarObject cv (selfSearch featImg) findHomography cvRound o'.features
      featImg.features o'.corners = some (if same o' then some o'.corners else none) := by
    intro o'
    by_cases hsame : same o'
    · rw [locate_selfSearch hmany hsame rfl, if_pos hsame, Option.map_some,
        mapCorner_all_identity hround]
    · rw [if_neg hsame]
      exact locatePlanarObject_none (searchFor_other fun hother => hsame hother.2)
  have hjson := (h (selfSearch featImg) findHomography _).mpr
    ⟨fun o' _ hnone => Option.some_ne_none _ ((hdue o').symm.trans hnone), rfl⟩
  have hnodes := flatMap_inj ?_ hjson.2 o ho
  · dsimp only at hnodes
    rw [hcode, hdue, if_pos hdescriptors, if_pos hdescriptors] at hnodes
    exact located_injective o hnodes
  · intro o' _
    dsimp only
    rw [hcode, hdue]
    by_cases hsame : same o'
    · rw [if_pos hsame, if_pos hsame]
      rfl
    · rw [if_neg hsame, if_neg hsame]

omit [IsStrictOrderedRing K] in
/-- The two directions agree on interchangeable definitions. -/
theorem locate_interchangeable (h : Interchangeable o featImg) (knnSearch : KnnSearch K)
    (findHomography : FindHomography P K) :
    locateObject cv knnSearch findHomography cvRound featImg o =
      locatePlanarObject cv knnSearch findHomography cvRound o.features featImg.features
        o.corners := by
  rcases h with ⟨hobject, hfeat⟩ | ⟨hdescriptors, hpoints, hcorners⟩
  · rw [locateObject, locatePlanarObject_few hfeat, locatePlanarObject_few hobject]
  · rw [locateObject, hcorners]
    exact locatePlanarObject_congr ⟨hdescriptors.symm, hpoints.symm⟩ ⟨hdescriptors, hpoints⟩

theorem sameRecords_iff (hround : ∀ n : Int, cvRound n = n) :
    SameRecords cv cvRound featImg objects ↔ ∀ o ∈ objects, Interchangeable o featImg := by
  constructor
  · intro h o ho
    by_cases hfew : o.features.total < 4 ∧ featImg.features.total < 4
    · exact Or.inl hfew
    · have hdescriptors := descriptors_eq h ho hfew
      have htotal : o.features.total = featImg.features.total := by
        rw [← o.features.descriptors_length, hdescriptors, Features.descriptors_length]
      have hmany : 4 ≤ featImg.features.total := by omega
      exact Or.inr ⟨hdescriptors, points_eq h ho hmany hdescriptors,
        corners_eq hround h ho hmany hdescriptors⟩
  · intro h knnSearch findHomography json
    exact recordsLocated_congr fun o ho =>
      locate_interchangeable (h o ho) knnSearch findHomography

end Matchers

section Inside

/-- `DetectObject` imports the frame from inside its payload, and finds one or three channels. -/
def ImageInside (frame : VideoFrame) : Prop :=
  (frame.nchannels.toNat = 1 ∨ frame.nchannels.toNat = 3) ∧
    4 ∣ frame.width.toNat * frame.nchannels.toNat ∧ frame.pixelBytes < 2^31

instance (frame : VideoFrame) : Decidable (ImageInside frame) := inferInstanceAs (Decidable (_ ∧ _))

variable [Field K] [LinearOrder K]

/-- `DetectObject` with everything it calls. -/
def Vision.detectObject (vision : Vision P K length)
    (m_objects : List (ObjectDefinition P K length)) (frame : VideoFrame) :
    Option (List JsonNode) :=
  KinectHelper.detectObject vision.toOpenCV vision.extractSURF vision.knnSearch
    vision.findHomography vision.cvRound m_objects frame

variable (vision : Vision P K length)

theorem Vision.locateObject_isSome (object imageDefinition : ObjectDefinition P K length) :
    locateObject vision.toOpenCV vision.knnSearch vision.findHomography vision.cvRound object
      imageDefinition ≠ none := by
  have hlocated := @locatePlanarObject_isSome P K length _ _ vision.toOpenCV vision.knnSearch
    vision.findHomography vision.cvRound object.features imageDefinition.features object.corners (by
      intro i hi hpass
      rw [← object.features.descriptors_length] at hi
      obtain ⟨k, hk, hindex⟩ := vision.searches _ _ i hi hpass
      rw [imageDefinition.features.descriptors_length] at hk
      exact ⟨k, hk, hindex⟩)
  obtain ⟨found, hfound⟩ := hlocated
  unfold locateObject
  rw [hfound]
  exact Option.some_ne_none found

/-- The objects do not matter. -/
theorem Vision.detectObject_isSome_iff (m_objects : List (ObjectDefinition P K length))
    {abi : Abi} {buffer : Block} {bufsize : UInt32} {frame : VideoFrame}
    (hframe : VideoFrame.fromBuffer abi buffer bufsize = some frame) (hok : frame.isOK = true) :
    (∃ json, vision.detectObject m_objects frame = some json) ↔ ImageInside frame := by
  have himport := importFrame_isSome_iff vision.toOpenCV hframe hok
  unfold Vision.detectObject ImageInside
  rw [← himport]
  constructor
  · intro ⟨json, hjson⟩
    obtain ⟨featImg, hfeat, _⟩ := Option.bind_eq_some_iff.mp hjson
    obtain ⟨img, himg, hinit⟩ := Option.bind_eq_some_iff.mp hfeat
    obtain ⟨features, hfeatures, _⟩ := Option.map_eq_some_iff.mp hinit
    obtain ⟨_, _, _, _, hchannels⟩ := importImage_eq_some himg
    have hread := (vision.extracts img).mp (Option.isSome_of_eq_some hfeatures)
    rw [hchannels] at hread
    exact ⟨hread, img, himg⟩
  · intro ⟨hread, img, himg⟩
    obtain ⟨_, _, _, _, hchannels⟩ := importImage_eq_some himg
    rw [← hchannels] at hread
    obtain ⟨features, hfeatures⟩ := Option.isSome_iff_exists.mp ((vision.extracts img).mpr hread)
    have hfeat : ∃ featImg,
        frameDefinition vision.toOpenCV vision.extractSURF frame = some featImg := by
      unfold frameDefinition ObjectDefinition.ofImage
      rw [himg, Option.bind_some, hfeatures]
      exact ⟨_, rfl⟩
    obtain ⟨featImg, hfeat⟩ := hfeat
    refine ⟨_, (detectObject_eq_some_iff hfeat).mpr ⟨?_, rfl⟩⟩
    intro o _
    exact vision.locateObject_isSome featImg o

end Inside

section Roles

variable [Field K] [LinearOrder K] [IsStrictOrderedRing K]

/-- `DetectObject` passes the frame as the object: it does its work if and only if the frame is
imported and every object can change places with it. -/
theorem detectsRight_iff (cv : OpenCV) (extractSURF : IplImage → Option (Features P K length))
    (cvRound : K → Int) (hround : ∀ n : Int, cvRound n = n)
    (objects : List (ObjectDefinition P K length)) (frame : VideoFrame) :
    DetectsRight cv extractSURF cvRound objects frame ↔
      ∃ featImg, frameDefinition cv extractSURF frame = some featImg ∧
        ∀ o ∈ objects, Interchangeable o featImg := by
  apply exists_congr
  intro featImg
  apply and_congr_right
  intro hfeat
  rw [← @sameRecords_iff P K length _ _ _ cv cvRound featImg objects hround]
  unfold SameRecords
  simp only [detectObject_eq_some_iff hfeat]

/-- A definition with four features. -/
def fourFeatures : Features Nat ℚ 4 where
  total := 4
  keypoint i := ⟨i, 1⟩
  descriptor _ := [0, 0, 0, 0]
  elem_size _ := rfl

/-- An object of the given size with these features. -/
def trainedObject (width height : Int) : ObjectDefinition Nat ℚ 4 where
  features := fourFeatures
  corners := ![⟨0, 0⟩, ⟨width, 0⟩, ⟨width, height⟩, ⟨0, height⟩]
  filename := "object"
  name := ""

/-- A frame of 4 times 2 pixels. -/
def smallFrame : VideoFrame := VideoFrame.holding (VideoFrame.encoded 4 2 3 (zeros 24)) 36

def smallFrameDefinition : ObjectDefinition Nat ℚ 4 := { trainedObject 4 2 with filename := "" }

theorem smallFrame_definition :
    frameDefinition documentedCV (fun _ => some fourFeatures) smallFrame =
      some smallFrameDefinition := rfl

theorem round_int (n : Int) : round (n : ℚ) = n := round_intCast n

theorem frame_sized_object_detected :
    DetectsRight documentedCV (fun _ => some fourFeatures) round [trainedObject 4 2] smallFrame :=
  (detectsRight_iff documentedCV (fun _ => some fourFeatures) round round_int [trainedObject 4 2]
    smallFrame).mpr
    ⟨_, smallFrame_definition, by
      intro o ho
      rw [List.mem_singleton.mp ho]
      exact Or.inr ⟨rfl, rfl, rfl⟩⟩

/-- An object of twice the size of the frame is recorded with the corners of the frame. -/
theorem corners_of_the_frame :
    VideoFrame.fromBuffer .lp64 (VideoFrame.encoded 4 2 3 (zeros 24)) 36 = some smallFrame ∧
      smallFrame.isOK = true ∧
      ¬ DetectsRight documentedCV (fun _ => some fourFeatures) round [trainedObject 8 4]
        smallFrame := by
  refine ⟨by decide, rfl, ?_⟩
  intro ⟨featImg, hfeat, h⟩
  rw [smallFrame_definition] at hfeat
  obtain rfl := Option.some.inj hfeat
  have hsame : SameRecords documentedCV round smallFrameDefinition [trainedObject 8 4] := by
    intro knnSearch findHomography json
    rw [← detectObject_eq_some_iff smallFrame_definition]
    exact h knnSearch findHomography json
  have hcorners := corners_eq round_int hsame (List.mem_singleton_self _) (le_refl 4) rfl
  exact absurd (congrFun hcorners 1) (by decide)

end Roles

section Exact

end Exact

end KinectHelper
