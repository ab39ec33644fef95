import ImportDlibDemo.Dlib.Models
import ImportDlibDemo.Library.BinaryFloat
import ImportDlibDemo.Library.Truncation
import ImportDlibDemo.NativeLib.ConvertBitmap
import ImportDlibDemo.NativeLib.Messages

/-!
# The native entry points

The three global detectors of `native-lib.cpp` and the functions Java calls on
them.  A Java exception thrown through JNI does not stop the C++ code: it is
recorded in `thrown` and the function runs on.  A C++ exception that leaves an
entry point ends the process.

dlib's detection algorithms are functions of the model and the image, given as
the `DlibRuntime`; `float` arithmetic is the class `CFloat`.
-/

namespace ImportDlibDemo
namespace NativeLib

open Dlib

/-- The `float` operations of the native code: `(float)` of a `long`, `(long)`
of a `float`, and division. -/
class CFloat (F : Type) where
  ofLong : Int → F
  toLong : F → Int
  div : F → F → F

/-- Exact arithmetic in the place of `float`, to evaluate the model with. -/
instance : CFloat ℚ where
  ofLong := fun value => value
  toLong := Library.Truncation.truncate
  div := fun a b => a / b

/-- Floating-point arithmetic.  C++ leaves open what `(long)` makes of a NaN, an
infinity or a number that is too large. -/
instance {format : Library.FloatFormat} :
    CFloat (Library.BinaryFloat format) where
  ofLong := Library.BinaryFloat.ofInt
  toLong := fun x => x.toInt?.getD 0
  div := Library.BinaryFloat.div

/-! ## Globals -/

/-- The detection algorithms of dlib and its built-in frontal face model. -/
structure DlibRuntime (F : Type) where
  detect : ObjectDetector → Array2d RgbPixel → List Rectangle
  predict : ShapePredictor F → Array2d RgbPixel → Rectangle → List Point
  frontalFaceDetector : ObjectDetector

/-- The globals of the library. -/
structure Globals (F : Type) where
  sFaceLandmarksDetector : ShapePredictor F
  sFaceDetector : ObjectDetector
  sToyDetector : ObjectDetector
  deriving DecidableEq, Repr

/-- The globals when the library has just been loaded. -/
def Globals.loaded {F : Type} : Globals F where
  sFaceLandmarksDetector := ShapePredictor.new
  sFaceDetector := ObjectDetector.new
  sToyDetector := ObjectDetector.new

variable {F : Type}

/-- `isFaceDetectorReady`. -/
def isFaceDetectorReady (globals : Globals F) : Bool :=
  globals.sFaceDetector.numDetectors > 0

/-- `isFaceLandmarksDetectorReady`. -/
def isFaceLandmarksDetectorReady (globals : Globals F) : Bool :=
  globals.sFaceLandmarksDetector.numParts > 0

/-! ## Preparing the detectors -/

/-- A model file: its path and, when it can be opened, its contents. -/
structure ModelFile (Contents : Type) where
  path : String
  contents : Option Contents
  deriving DecidableEq, Repr

/-- How a void entry point ends: it returns, perhaps with a Java exception
pending, or a C++ exception leaves it. -/
inductive PrepareEnd (F : Type)
  | returned (globals : Globals F) (thrown : List String)
  | terminated (globals : Globals F) (what : String)
  deriving DecidableEq, Repr

/-- The message of `proxy_deserialize` for a file that cannot be opened. -/
def unableToOpen (path : String) : String :=
  "Unable to open " ++ path ++ " for reading."

/-- `prepareFaceDetector`. -/
def prepareFaceDetector (dlib : DlibRuntime F) (globals : Globals F) :
    PrepareEnd F :=
  .returned { globals with sFaceDetector := dlib.frontalFaceDetector } []

/-- `prepareFaceLandmarksDetector`: the file is read straight into the global,
and only then is the number of parts checked. -/
def prepareFaceLandmarksDetector (file : ModelFile (ShapePredictorStream F))
    (globals : Globals F) : PrepareEnd F :=
  match file.contents with
  | none => .terminated globals (unableToOpen file.path)
  | some stream =>
      match ShapePredictor.deserialize stream globals.sFaceLandmarksDetector with
      | .error broken =>
          .terminated { globals with sFaceLandmarksDetector := broken.item }
            broken.info
      | .ok predictor =>
          .returned { globals with sFaceLandmarksDetector := predictor }
            (if predictor.numParts ≠ 68 then
              ["It's not a 68 landmarks detector!"]
            else [])

/-- `prepareLegoToyDetector`.  The contents of the file are what reading it into
an `object_detector` yields. -/
def prepareLegoToyDetector (file : ModelFile (FieldRead ObjectDetector))
    (globals : Globals F) : PrepareEnd F :=
  match file.contents with
  | none => .terminated globals (unableToOpen file.path)
  | some (.broken left info) =>
      .terminated { globals with sToyDetector := left } info
  | some (.read detector) =>
      .returned { globals with sToyDetector := detector } []

/-! ## Detection -/

/-- A dlib algorithm an entry point has run. -/
inductive DetectorRun
  | faceDetector
  | faceLandmarksDetector (rect : Rectangle)
  | toyDetector
  deriving DecidableEq, Repr

/-- What one call of a detection entry point does: the conversion it made, the
Java exceptions thrown, the detectors it ran, the byte array it built (as the
`FaceList` in it), and whether it lost all meaning on the way. -/
structure DetectionRun (F : Type) where
  conversion : Option Conversion
  thrown : List String
  detectorRuns : List DetectorRun
  result : Option (List (Face F))
  undefined : Bool

/-- An entry point that throws and returns `NULL` at once. -/
def DetectionRun.refused (message : String) : DetectionRun F where
  conversion := none
  thrown := [message]
  detectorRuns := []
  result := none
  undefined := false

/-- Convert the bitmap into a fresh `array2d` and go on with `body`; no entry
point looks at the pending exception in between. -/
def convertThen (bitmap : Bitmap)
    (body : Array2d RgbPixel → List DetectorRun × List (Face F)) :
    DetectionRun F :=
  let conversion := convertBitmapToArray2d bitmap Array2d.new
  -- No `ExceptionCheck`: `conversion.thrown` decides nothing here.
  if conversion.undefined then
    { conversion := some conversion, thrown := conversion.thrown
      detectorRuns := [], result := none, undefined := true }
  else
    let (detectorRuns, faces) := body conversion.out
    { conversion := some conversion, thrown := conversion.thrown
      detectorRuns := detectorRuns, result := some faces, undefined := false }

section Detection

variable [CFloat F]

open CFloat

/-- `detectFacesAndLandmarks`. -/
def detectFacesAndLandmarks (dlib : DlibRuntime F) (globals : Globals F)
    (bitmap : Bitmap) : DetectionRun F :=
  if globals.sFaceDetector.numDetectors = 0 then
    .refused "sFaceDetector is not initialized!"
  else if globals.sFaceLandmarksDetector.numParts = 0 then
    .refused "sFaceLandmarksDetector is not initialized!"
  else
    convertThen bitmap fun img =>
      let width : F := ofLong img.nc
      let height : F := ofLong img.nr
      let dets := dlib.detect globals.sFaceDetector img
      (.faceDetector :: dets.map .faceLandmarksDetector,
        dets.map fun det =>
          { bound :=
              { left := div (ofLong det.left) width
                top := div (ofLong det.top) height
                right := div (ofLong det.right) width
                bottom := div (ofLong det.bottom) height }
            landmarks :=
              (dlib.predict globals.sFaceLandmarksDetector img det).map
                fun pt =>
                  { x := div (ofLong pt.x) width
                    y := div (ofLong pt.y) height } })

/-- `detectLandmarksFromFaces`.  The sizes are `long`s and become `float`s in
each division. -/
def detectLandmarksFromFaces (dlib : DlibRuntime F) (globals : Globals F)
    (bitmap : Bitmap) (faceRects : List (RectF F)) : DetectionRun F :=
  convertThen bitmap fun img =>
    let width : Int := img.nc
    let height : Int := img.nr
    let bounds := faceRects.map fun msgBound =>
      ({ left := toLong msgBound.left
         top := toLong msgBound.top
         right := toLong msgBound.right
         bottom := toLong msgBound.bottom } : Rectangle)
    (bounds.map .faceLandmarksDetector,
      bounds.map fun bound =>
        { bound :=
            { left := div (ofLong bound.left) (ofLong width)
              top := div (ofLong bound.top) (ofLong height)
              right := div (ofLong bound.right) (ofLong width)
              bottom := div (ofLong bound.bottom) (ofLong height) }
          landmarks :=
            (dlib.predict globals.sFaceLandmarksDetector img bound).map
              fun pt =>
                { x := div (ofLong pt.x) (ofLong width)
                  y := div (ofLong pt.y) (ofLong height) } })

/-- `detectLegoToy`. -/
def detectLegoToy (dlib : DlibRuntime F) (globals : Globals F)
    (bitmap : Bitmap) : DetectionRun F :=
  convertThen bitmap fun img =>
    let width : Int := img.nc
    let height : Int := img.nr
    let dets := dlib.detect globals.sToyDetector img
    ([.toyDetector],
      dets.map fun det =>
        { bound :=
            { left := div (ofLong det.left) (ofLong width)
              top := div (ofLong det.top) (ofLong height)
              right := div (ofLong det.right) (ofLong width)
              bottom := div (ofLong det.bottom) (ofLong height) }
          landmarks := [] })

/-- The entry points that convert a bitmap. -/
inductive EntryPoint (F : Type)
  | detectFacesAndLandmarks
  | detectLandmarksFromFaces (faceRects : List (RectF F))
  | detectLegoToy
  deriving DecidableEq, Repr

/-- Call a detection entry point. -/
def EntryPoint.run (dlib : DlibRuntime F) (globals : Globals F)
    (bitmap : Bitmap) : EntryPoint F → DetectionRun F
  | .detectFacesAndLandmarks =>
      NativeLib.detectFacesAndLandmarks dlib globals bitmap
  | .detectLandmarksFromFaces faceRects =>
      NativeLib.detectLandmarksFromFaces dlib globals bitmap faceRects
  | .detectLegoToy => NativeLib.detectLegoToy dlib globals bitmap

end Detection

end NativeLib
end ImportDlibDemo
