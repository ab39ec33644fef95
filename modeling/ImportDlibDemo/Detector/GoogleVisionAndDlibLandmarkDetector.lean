import ImportDlibDemo.Android.Graphics
import ImportDlibDemo.Data.DLibFace68
import ImportDlibDemo.Library.SparseArray
import ImportDlibDemo.Library.Truncation
import ImportDlibDemo.View.FaceLandmarksOverlayView

/-!
# `GoogleVisionAndDlibLandmarkDetector`

The detector behind the camera: Google Vision finds the faces of a frame, the
frame is turned into an upright bitmap, and dlib aligns landmarks in boxes
derived from Google's; the post processor passes the result to the overlay.
Coordinates of boxes are `float`s, or exact numbers in their place.

The two detectors it is built from are arguments: the faces Google Vision
reports for the frame, and `findLandmarksFromFaces`, which yields `none` for an
`InvalidProtocolBufferException`.
-/

namespace ImportDlibDemo
namespace Detector

open Android
open Data
open Library
open Library.PlaneBox
open Library.Truncation

/-- `Frame.Metadata`. -/
structure Metadata where
  width : Nat
  height : Nat
  rotation : Rotation
  deriving DecidableEq, Repr

/-- A frame of the camera, in the sensor's own orientation.  Its pixels come as
YUV data, or as a bitmap of the metadata's size. -/
structure Frame where
  metadata : Metadata
  hasBitmap : Bool
  deriving DecidableEq, Repr

/-- A face of Google Vision: the position of its top left corner and its
size. -/
structure VisionFace (R : Type) where
  position : Point R
  width : R
  height : R
  deriving DecidableEq, Repr

/-- A face with rational coordinates. -/
abbrev GoogleFace := VisionFace ℚ

/-- The box of a face as Google Vision reports it. -/
def GoogleFace.box (face : GoogleFace) : Box ℚ where
  left := face.position.x
  top := face.position.y
  right := face.position.x + face.width
  bottom := face.position.y + face.height

/-- The pixels of the frame as they come: `frame.getBitmap()`, or the decoded
YUV image. -/
def Frame.rawBitmap (frame : Frame) : Bitmap where
  width := frame.metadata.width
  height := frame.metadata.height
  place := fun p => p

/-- `getCameraToViewTransform`. -/
def getCameraToViewTransform (mIsFrontCamera : Bool) (frame : Frame) : Matrix :=
  let transform := Matrix.new
  let transform :=
    match frame.metadata.rotation with
    | .rotation0 => transform
    | .rotation90 => transform.postRotate .rotation90
    | .rotation180 => transform.postRotate .rotation180
    | .rotation270 => transform.postRotate .rotation270
  if mIsFrontCamera then transform.postScale (-1) 1 else transform

/-- `getBitmapFromFrame`. -/
def getBitmapFromFrame (frame : Frame) (transform : Matrix) : Bitmap :=
  if frame.hasBitmap then frame.rawBitmap
  else createBitmap frame.rawBitmap transform

section

variable {R : Type} [NatCast R] [Sub R] [Add R]

/-- The box `(x, y, x + w, y + h)` that `detect` computes for a face. -/
def detectedBox (mIsFrontCamera : Bool) (frame : Frame) (face : VisionFace R) :
    Box R :=
  let x :=
    if mIsFrontCamera then
      frame.metadata.height - face.position.x - face.width
    else
      face.position.x
  let y := face.position.y
  let w := face.width
  let h := face.height
  { left := x, top := y, right := x + w, bottom := y + h }

variable [Coordinate R]

/-- The bound handed to dlib: the box truncated to integers, then adjusted. -/
def adjustedBound (box : Box R) : Rect :=
  let keep := Coordinate.keep R
  let bound : Rect :=
    { left := Coordinate.toInt box.left
      top := Coordinate.toInt box.top
      right := Coordinate.toInt box.right
      bottom := Coordinate.toInt box.bottom }
  let bound := (bound.inset ((keep bound.width).tdiv 10)
    ((keep bound.height).tdiv 6)).map keep
  (bound.offset 0 ((keep bound.height).tdiv 4)).map keep

/-- The list of bounds `detect` makes from the faces, walking the sparse
array. -/
def faceBounds (mIsFrontCamera : Bool) (frame : Frame)
    (faces : SparseArray (VisionFace R)) : List Rect :=
  (List.range faces.size).filterMap fun i =>
    (faces.get (faces.keyAt i)).map fun face =>
      adjustedBound (detectedBox mIsFrontCamera frame face)

end

variable {K : Type}

/-- `findLandmarksFromFaces`, as the landmarks detector answers it for one
frame. -/
abbrev FindLandmarks (K : Type) :=
  Bitmap → List Rect → Option (List (DLibFace68 K))

/-- The fields of the detector that matter to a frame. -/
structure LandmarkDetector (K : Type) where
  mIsFrontCamera : Bool
  mDetFaces : SparseArray (DLibFace68 K)

/-- `detect`: the detector afterwards, and the returned items; `none` is
`null`. -/
def detect {R : Type} [NatCast R] [Sub R] [Add R] [Coordinate R]
    (detector : LandmarkDetector K) (frame : Frame)
    (faces : SparseArray (VisionFace R))
    (findLandmarksFromFaces : FindLandmarks K) :
    LandmarkDetector K × Option (SparseArray (DLibFace68 K)) :=
  let detector := { detector with mDetFaces := SparseArray.empty }
  if faces.size = 0 then
    (detector, some detector.mDetFaces)
  else
    let transform := getCameraToViewTransform detector.mIsFrontCamera frame
    let bitmap := getBitmapFromFrame frame transform
    let bounds := faceBounds detector.mIsFrontCamera frame faces
    match findLandmarksFromFaces bitmap bounds with
    | none => (detector, none)
    | some detFaces =>
        let mDetFaces := detFaces.zipIdx.foldl
          (fun mDetFaces (face : DLibFace68 K × Nat) =>
            mDetFaces.put face.2 face.1)
          SparseArray.empty
        ({ detector with mDetFaces := mDetFaces }, some mDetFaces)

/-- `PostProcessor`. -/
structure PostProcessor (K : Type) where
  mOverlay : View.FaceLandmarksOverlayView K
  mFaces : List (DLibFace68 K)

/-- `PostProcessor.receiveDetections`: `none` is a `null` argument, `some none`
an argument whose items are `null`. -/
def receiveDetections [IntCast K] [Mul K] (processor : PostProcessor K)
    (detections : Option (Option (SparseArray (DLibFace68 K)))) :
    PostProcessor K :=
  let processor := { processor with mFaces := [] }
  match detections with
  | none =>
      { processor with mOverlay := processor.mOverlay.setFaces processor.mFaces }
  | some none => processor
  | some (some faces) =>
      let mFaces := (List.range faces.size).filterMap fun i =>
        faces.get (faces.keyAt i)
      { mFaces := mFaces, mOverlay := processor.mOverlay.setFaces mFaces }

end Detector
end ImportDlibDemo
