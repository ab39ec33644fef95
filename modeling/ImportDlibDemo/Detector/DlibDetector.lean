import ImportDlibDemo.Detector.FrameToOverlay
import ImportDlibDemo.Detector.WireTransport
import ImportDlibDemo.NativeLib.ConversionContainment

/-!
# `LegoToyDetector` and `DlibDetector`

The camera of the Lego toys.  `DlibDetector` is the detector behind the camera
without Google Vision: it turns the frame into an upright bitmap and publishes
what the toy detector finds in it.  Its `getCameraToViewTransform`,
`getBitmapFromFrame` and `PostProcessor` repeat those of
`GoogleVisionAndDlibLandmarkDetector` word for word, as do its fields.

A toy arrives as a face without landmarks (`findFaces_wire`), and the items are
the toys in their order (`DlibDetector.detect_items`).
-/

namespace ImportDlibDemo
namespace Detector

open Android
open Data
open Dlib
open Library
open NativeLib
open Proto

/-- `LegoToyDetector.findFaces`. -/
def findFaces (proto : Protobuf) (dlib : DlibRuntime Binary32)
    (globals : Globals Binary32) (bitmap : NativeLib.Bitmap) : FindEnd :=
  convertRawData proto (detectLegoToy dlib globals bitmap)

namespace DlibDetector

variable {K : Type}

/-- `getCameraToViewTransform`. -/
def getCameraToViewTransform (mIsFrontCamera : Bool) (frame : Frame) : Matrix :=
  Detector.getCameraToViewTransform mIsFrontCamera frame

/-- `getBitmapFromFrame`. -/
def getBitmapFromFrame (frame : Frame) (transform : Matrix) : Android.Bitmap :=
  Detector.getBitmapFromFrame frame transform

/-- `detect`: the detector afterwards, and the returned items; `none` is
`null`.  The toy detector is given as its answer for one frame, `none` for an
`InvalidProtocolBufferException`. -/
def detect (detector : LandmarkDetector K) (frame : Frame)
    (findFaces : Android.Bitmap → Option (List (DLibFace68 K))) :
    LandmarkDetector K × Option (SparseArray (DLibFace68 K)) :=
  let detector := { detector with mDetFaces := SparseArray.empty }
  let transform := getCameraToViewTransform detector.mIsFrontCamera frame
  let bitmap := getBitmapFromFrame frame transform
  match findFaces bitmap with
  | none => (detector, none)
  | some detFaces =>
      let mDetFaces := detFaces.zipIdx.foldl
        (fun mDetFaces (face : DLibFace68 K × Nat) =>
          mDetFaces.put face.2 face.1)
        SparseArray.empty
      ({ detector with mDetFaces := mDetFaces }, some mDetFaces)

/-- `PostProcessor.receiveDetections`. -/
def receiveDetections [IntCast K] [Mul K] (processor : PostProcessor K)
    (detections : Option (Option (SparseArray (DLibFace68 K)))) :
    PostProcessor K :=
  Detector.receiveDetections processor detections

/-- The items are the toys of the frame, in their order. -/
theorem detect_items (detector : LandmarkDetector K) (frame : Frame)
    (findFaces : Android.Bitmap → Option (List (DLibFace68 K))) :
    (detect detector frame findFaces).2.map SparseArray.values =
      findFaces (getBitmapFromFrame frame
        (getCameraToViewTransform detector.mIsFrontCamera frame)) := by
  unfold detect
  simp only
  cases findFaces (getBitmapFromFrame frame
      (getCameraToViewTransform detector.mIsFrontCamera frame)) with
  | none => rfl
  | some detFaces => simp only [Option.map_some, SparseArray.values_foldl_put]

section

variable [IntCast K] [Mul K]

/-- `receiveFrame`: `detect`, then `receiveDetections` with its items. -/
def receiveFrame (pipeline : Pipeline K) (frame : Frame)
    (findFaces : Android.Bitmap → Option (List (DLibFace68 K))) : Pipeline K :=
  let (detector, items) := detect pipeline.detector frame findFaces
  { detector := detector
    processor := receiveDetections pipeline.processor (some items) }

/-- The overlay behind a frame: its toys, or what was there before when the
answer could not be parsed. -/
theorem receiveFrame_overlay (pipeline : Pipeline K) (frame : Frame)
    (findFaces : Android.Bitmap → Option (List (DLibFace68 K))) :
    (receiveFrame pipeline frame findFaces).overlay =
      match findFaces (getBitmapFromFrame frame
          (getCameraToViewTransform pipeline.detector.mIsFrontCamera frame)) with
      | none => pipeline.overlay
      | some toys => pipeline.overlay.setFaces toys := by
  rw [← detect_items pipeline.detector frame findFaces]
  exact receiveDetections_mOverlay _ _

end

end DlibDetector

/-! ## Toys over the wire -/

section Toys

variable {input : CodedInputStream} {runtime : Data.Messages.ProtobufRuntime}
  {dlib : DlibRuntime Binary32} {globals : Globals Binary32}
  {bitmap : NativeLib.Bitmap}

/-- The rectangles the toy detector finds in the bitmap. -/
def toyRects (dlib : DlibRuntime Binary32) (globals : Globals Binary32)
    (bitmap : NativeLib.Bitmap) : List Rectangle :=
  dlib.detect globals.sToyDetector
    (convertBitmapToArray2d bitmap Array2d.new).out

/-- The toy of a rectangle: the bound of its face, and no landmark. -/
def toyOf (dlib : DlibRuntime Binary32) (globals : Globals Binary32)
    (bitmap : NativeLib.Bitmap) (rect : Rectangle) : DLibFace68 Binary32 :=
  { faceOf dlib globals bitmap rect with mLandmarks := [] }

/-- The message of a toy. -/
def toyMessage (dlib : DlibRuntime Binary32) (globals : Globals Binary32)
    (img : Array2d RgbPixel) (rect : Rectangle) : Face Binary32 :=
  { faceMessage dlib globals img rect with landmarks := [] }

/-- The toys of an accepted bitmap arrive. -/
theorem findFaces_wire (hruntime : runtime.Documented)
    (haccepted : bitmap.Accepted)
    (hmany : (toyRects dlib globals bitmap).length ≤ 2 ^ 20) :
    findFaces (wireProtobuf input runtime) dlib globals bitmap =
      .returned ((toyRects dlib globals bitmap).map
        (toyOf dlib globals bitmap)) := by
  obtain ⟨hundefined, hthrown, _⟩ := convert_of_accepted haccepted Array2d.new
  have hsmall : NativeLib.FaceList.byteSizeLong
      (((toyRects dlib globals bitmap).map (toyMessage dlib globals
        (convertBitmapToArray2d bitmap Array2d.new).out)).map faceFields) <
          2 ^ 31 := by
    refine (FaceList.byteSizeLong_le ?_).trans_lt ?_
    · intro fields hfields
      simp only [List.map_map, List.mem_map] at hfields
      obtain ⟨rect, _, rfl⟩ := hfields
      exact Nat.zero_le 68
    · rw [List.length_map, List.length_map]
      omega
  refine (convertRawData_wire hruntime hundefined hthrown
    (fun img => ([.toyDetector],
      (dlib.detect globals.sToyDetector img).map (toyMessage dlib globals img)))
    hsmall).trans ?_
  rw [List.map_map]
  rfl

end Toys

end Detector
end ImportDlibDemo
