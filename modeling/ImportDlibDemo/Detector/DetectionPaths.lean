import ImportDlibDemo.Detector.DLibLandmarks68Detector
import ImportDlibDemo.Dlib.ObjectDetection
import ImportDlibDemo.NativeLib.ConvertBitmapChannels

/-!
# Detection in one step and in two

`findFacesAndLandmarks` finds the faces of a bitmap and their landmarks.
`findLandmarksFromFaces` gets the faces from its caller, as Android rectangles
that reach dlib as `float`s in a message.  Given the rectangles the face detector
finds, the two return the same faces, as long as the coordinates are integers
that a `float` holds exactly.
-/

namespace ImportDlibDemo
namespace Detector

open Dlib
open Library
open NativeLib

/-- The rectangle as Android has it. -/
def toRect (rect : Rectangle) : Android.Rect where
  left := rect.left
  top := rect.top
  right := rect.right
  bottom := rect.bottom

/-- The coordinates are integers of the precision of a `float`. -/
structure ExactInFloat (rect : Rectangle) : Prop where
  left : |rect.left| ≤ 2 ^ 24
  top : |rect.top| ≤ 2 ^ 24
  right : |rect.right| ≤ 2 ^ 24
  bottom : |rect.bottom| ≤ 2 ^ 24

/-- The rectangles the face detector finds in the bitmap. -/
def detectedRects (dlib : DlibRuntime Binary32) (globals : Globals Binary32)
    (bitmap : Bitmap) : List Rectangle :=
  dlib.detect globals.sFaceDetector
    (convertBitmapToArray2d bitmap Array2d.new).out

/-- The face of a rectangle: its sides and the points predicted in it, as
fractions of the size of the image. -/
def faceOf (dlib : DlibRuntime Binary32) (globals : Globals Binary32)
    (bitmap : Bitmap) (rect : Rectangle) : Data.DLibFace68 Binary32 :=
  let img := (convertBitmapToArray2d bitmap Array2d.new).out
  let fraction (position : Int) (size : Nat) : Binary32 :=
    (CFloat.div (CFloat.ofLong position) (CFloat.ofLong size) :
      Binary32).unsignZero
  { mBound :=
      { left := fraction rect.left img.nc
        top := fraction rect.top img.nr
        right := fraction rect.right img.nc
        bottom := fraction rect.bottom img.nr }
    mLandmarks :=
      (dlib.predict globals.sFaceLandmarksDetector img rect).map fun pt =>
        { x := fraction pt.x img.nc, y := fraction pt.y img.nr } }

/-- A coordinate on its way to dlib: from `int` to `float`, through the message,
and back to `long`. -/
theorem toLong_message {n : Int} (hn : |n| ≤ 2 ^ 24) :
    CFloat.toLong (BinaryFloat.unsignZero (CFloat.ofLong n : Binary32)) = n := by
  have hexact : (BinaryFloat.ofInt n : Binary32).toInt? = some n :=
    BinaryFloat.toInt?_ofInt (by decide) (by decide) hn
  show (BinaryFloat.unsignZero (BinaryFloat.ofInt n : Binary32)).toInt?.getD 0 = n
  rw [BinaryFloat.toInt?_unsignZero, hexact]
  rfl

/-- The rectangle `detectLandmarksFromFaces` makes of a bound in the message. -/
def readBound (msgBound : RectF Binary32) : Rectangle where
  left := CFloat.toLong msgBound.left
  top := CFloat.toLong msgBound.top
  right := CFloat.toLong msgBound.right
  bottom := CFloat.toLong msgBound.bottom

theorem readBound_message {rect : Rectangle} (hrect : ExactInFloat rect) :
    readBound ((msgBound (toRect rect)).map BinaryFloat.unsignZero) = rect := by
  obtain ⟨left, top, right, bottom⟩ := rect
  show Rectangle.mk _ _ _ _ = _
  congr
  · exact toLong_message hrect.left
  · exact toLong_message hrect.top
  · exact toLong_message hrect.right
  · exact toLong_message hrect.bottom

theorem map_readBound_message {rects : List Rectangle}
    (hexact : ∀ rect ∈ rects, ExactInFloat rect) :
    (((rects.map toRect).map msgBound).map
      (RectF.map BinaryFloat.unsignZero)).map readBound = rects := by
  simp only [List.map_map]
  conv_rhs => rw [← List.map_id rects]
  apply List.map_congr_left
  intro rect hrect
  exact readBound_message (hexact rect hrect)

section Paths

variable {proto : Protobuf} {dlib : DlibRuntime Binary32}
  {globals : Globals Binary32} {bitmap : Bitmap}

/-- Behind a clean conversion the caller gets the faces the entry point packs. -/
theorem convertRawData_of_converted (hproto : proto.DecodesEncoded)
    (hundefined : (convertBitmapToArray2d bitmap Array2d.new).undefined = false)
    (hthrown : (convertBitmapToArray2d bitmap Array2d.new).thrown = [])
    (body : Array2d RgbPixel → List DetectorRun × List (Face Binary32)) :
    convertRawData proto (convertThen bitmap body) =
      .returned ((body (convertBitmapToArray2d bitmap Array2d.new).out).2.map
        fun face => Data.DLibFace68.ofMessage (face.map BinaryFloat.unsignZero)) := by
  simp [convertRawData, convertThen, hundefined, hthrown, hproto.faceList]

/-- The message both entry points pack for a rectangle. -/
def faceMessage (dlib : DlibRuntime Binary32) (globals : Globals Binary32)
    (img : Array2d RgbPixel) (rect : Rectangle) : Face Binary32 where
  bound :=
    { left := CFloat.div (CFloat.ofLong rect.left) (CFloat.ofLong img.nc)
      top := CFloat.div (CFloat.ofLong rect.top) (CFloat.ofLong img.nr)
      right := CFloat.div (CFloat.ofLong rect.right) (CFloat.ofLong img.nc)
      bottom := CFloat.div (CFloat.ofLong rect.bottom) (CFloat.ofLong img.nr) }
  landmarks :=
    (dlib.predict globals.sFaceLandmarksDetector img rect).map fun pt =>
      { x := CFloat.div (CFloat.ofLong pt.x) (CFloat.ofLong img.nc)
        y := CFloat.div (CFloat.ofLong pt.y) (CFloat.ofLong img.nr) }

/-- Packed, sent and converted, the rectangles give their faces. -/
theorem returned_faceMessages (rects : List Rectangle) :
    FindEnd.returned
        ((rects.map (faceMessage dlib globals
            (convertBitmapToArray2d bitmap Array2d.new).out)).map fun face =>
          Data.DLibFace68.ofMessage (face.map BinaryFloat.unsignZero)) =
      .returned (rects.map (faceOf dlib globals bitmap)) := by
  rw [List.map_map]
  congr 1
  apply List.map_congr_left
  intro rect _
  simp only [Function.comp_apply, Data.DLibFace68.ofMessage, Face.map,
    faceMessage, List.map_map]
  rfl

/-- One step: the faces of the rectangles the face detector finds. -/
theorem findFacesAndLandmarks_eq (hproto : proto.DecodesEncoded)
    (hundefined : (convertBitmapToArray2d bitmap Array2d.new).undefined = false)
    (hthrown : (convertBitmapToArray2d bitmap Array2d.new).thrown = [])
    (hface : isFaceDetectorReady globals = true)
    (hlandmarks : isFaceLandmarksDetectorReady globals = true) :
    findFacesAndLandmarks proto dlib globals bitmap =
      .returned ((detectedRects dlib globals bitmap).map
        (faceOf dlib globals bitmap)) := by
  have hdetectors : ¬ globals.sFaceDetector.numDetectors = 0 := by
    have hpos := of_decide_eq_true hface
    omega
  have hparts : ¬ globals.sFaceLandmarksDetector.numParts = 0 := by
    have hpos := of_decide_eq_true hlandmarks
    omega
  rw [findFacesAndLandmarks, detectFacesAndLandmarks, if_neg hdetectors,
    if_neg hparts, convertRawData_of_converted hproto hundefined hthrown]
  exact returned_faceMessages (detectedRects dlib globals bitmap)

/-- Two steps: the faces of the rectangles of the caller. -/
theorem findLandmarksFromFaces_eq (hproto : proto.DecodesEncoded)
    (hundefined : (convertBitmapToArray2d bitmap Array2d.new).undefined = false)
    (hthrown : (convertBitmapToArray2d bitmap Array2d.new).thrown = [])
    {rects : List Rectangle} (hexact : ∀ rect ∈ rects, ExactInFloat rect) :
    findLandmarksFromFaces proto dlib globals bitmap (rects.map toRect) =
      .returned (rects.map (faceOf dlib globals bitmap)) := by
  have hbounds := map_readBound_message hexact
  rw [findLandmarksFromFaces, hproto.rectFList, detectLandmarksFromFaces,
    convertRawData_of_converted hproto hundefined hthrown]
  show FindEnd.returned (((((((rects.map toRect).map msgBound).map
    (RectF.map BinaryFloat.unsignZero)).map readBound).map _).map _)) = _
  rw [hbounds]
  exact returned_faceMessages rects

/-- On a bitmap that converts without an error, with both detectors prepared, the
two ways return the same faces, one for each rectangle the face detector
finds. -/
theorem paths_agree (hproto : proto.DecodesEncoded)
    (hundefined : (convertBitmapToArray2d bitmap Array2d.new).undefined = false)
    (hthrown : (convertBitmapToArray2d bitmap Array2d.new).thrown = [])
    (hface : isFaceDetectorReady globals = true)
    (hlandmarks : isFaceLandmarksDetectorReady globals = true)
    (hexact : ∀ rect ∈ detectedRects dlib globals bitmap, ExactInFloat rect) :
    let rects := detectedRects dlib globals bitmap
    let faces := rects.map (faceOf dlib globals bitmap)
    findFacesAndLandmarks proto dlib globals bitmap = .returned faces ∧
      findLandmarksFromFaces proto dlib globals bitmap (rects.map toRect) =
        .returned faces :=
  ⟨findFacesAndLandmarks_eq hproto hundefined hthrown hface hlandmarks,
    findLandmarksFromFaces_eq hproto hundefined hthrown hexact⟩

end Paths

/-- A code for the messages: each is its own bytes, up to the signs of zeros. -/
def plainProtobuf : Protobuf where
  Bytes := List (Face Binary32) ⊕ List (RectF Binary32)
  faceListBytes := fun faces => .inl (faces.map (Face.map BinaryFloat.unsignZero))
  parseFaceList := Sum.getLeft?
  rectFListBytes := fun rects => .inr (rects.map (RectF.map BinaryFloat.unsignZero))
  parseRectFList := fun bytes => bytes.getRight?.getD []

/-- A face over the left edge, and one with its sides the wrong way round. -/
def edgeRects : List Rectangle :=
  [{ left := -3, top := 0, right := 2 ^ 24, bottom := 10 },
    { left := 4, top := 4, right := 2, bottom := 2 }]

/-- The trained face detector finds the faces above, and each face has its
corner as its only landmark. -/
def edgeDlib : DlibRuntime Binary32 where
  detect := fun detector _ => if detector.numDetectors = 0 then [] else edgeRects
  predict := fun predictor _ rect =>
    (List.range predictor.numParts).map fun _ => ⟨rect.left, rect.top⟩
  frontalFaceDetector := oneFilter

/-- A library with both detectors prepared. -/
def edgeGlobals : Globals Binary32 where
  sFaceLandmarksDetector :=
    { ShapePredictor.new with
      initialShape := [CFloat.ofLong 0, CFloat.ofLong 0] }
  sFaceDetector := edgeDlib.frontalFaceDetector
  sToyDetector := ObjectDetector.new

theorem edge_paths_agree :
    let faces := edgeRects.map (faceOf edgeDlib edgeGlobals greenPixel.toBitmap)
    findFacesAndLandmarks plainProtobuf edgeDlib edgeGlobals
        greenPixel.toBitmap = .returned faces ∧
      findLandmarksFromFaces plainProtobuf edgeDlib edgeGlobals
          greenPixel.toBitmap (edgeRects.map toRect) = .returned faces := by
  have hexact : ∀ rect ∈ edgeRects, ExactInFloat rect := by
    simp only [edgeRects, List.forall_mem_cons, List.not_mem_nil,
      IsEmpty.forall_iff, implies_true, and_true]
    constructor
    · constructor <;> norm_num
    · constructor <;> norm_num
  exact paths_agree ⟨fun _ => rfl, fun _ => rfl⟩ (by decide) (by decide) rfl rfl
    hexact

end Detector
end ImportDlibDemo
