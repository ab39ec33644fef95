import ImportDlibDemo.Detector.GoogleVisionAndDlibLandmarkDetector
import ImportDlibDemo.Library.GuardedRun

/-!
# From a frame to the overlay

Google Vision gives each frame to `detect` and the returned items to the post
processor, which replaces the overlay's faces.  A failed detection returns
`null`, and for `null` items the post processor returns before it reaches the
overlay: the faces of an earlier frame stay.

`eachFrameIsShown_iff` — every frame of a run is shown exactly when no detection
fails while faces are on the overlay.
-/

namespace ImportDlibDemo
namespace Detector

open Android
open Data
open Library
open Library.GuardedRun

variable {K R : Type} [NatCast R] [Sub R] [Add R] [Coordinate R]

/-- The detector, its post processor and the overlay behind it. -/
structure Pipeline (K : Type) where
  detector : LandmarkDetector K
  processor : PostProcessor K

/-- What reaches the pipeline: a frame, with the faces Google Vision finds in
it and the answer of the landmarks detector, or a new preview size. -/
inductive PipelineEvent (K : Type)
  | receiveFrame (frame : Frame) (faces : SparseArray GoogleFace)
      (findLandmarksFromFaces : FindLandmarks K)
  | setCameraPreviewSize (width height : Int)

/-- The overlay of a pipeline. -/
def Pipeline.overlay (pipeline : Pipeline K) : View.FaceLandmarksOverlayView K :=
  pipeline.processor.mOverlay

/-- The faces of a frame: none when Google Vision finds none, otherwise what
the landmarks detector returns; `none` when its answer cannot be parsed. -/
def detectedFaces (mIsFrontCamera : Bool) (frame : Frame)
    (faces : SparseArray (VisionFace R))
    (findLandmarksFromFaces : FindLandmarks K) :
    Option (List (DLibFace68 K)) :=
  if faces.size = 0 then some []
  else
    findLandmarksFromFaces
      (getBitmapFromFrame frame (getCameraToViewTransform mIsFrontCamera frame))
      (faceBounds mIsFrontCamera frame faces)

/-! ## Detector and post processor -/

/-- The items `detect` returns are the faces of the frame, in their order. -/
theorem detect_items (detector : LandmarkDetector K) (frame : Frame)
    (faces : SparseArray (VisionFace R))
    (findLandmarksFromFaces : FindLandmarks K) :
    (detect detector frame faces findLandmarksFromFaces).2.map
        SparseArray.values =
      detectedFaces detector.mIsFrontCamera frame faces
        findLandmarksFromFaces := by
  unfold detect detectedFaces
  by_cases hsize : faces.size = 0
  · simp [hsize, SparseArray.values, SparseArray.empty]
  · simp only [hsize, if_false]
    cases findLandmarksFromFaces
        (getBitmapFromFrame frame
          (getCameraToViewTransform detector.mIsFrontCamera frame))
        (faceBounds detector.mIsFrontCamera frame faces) with
    | none => rfl
    | some detFaces =>
        simp only [Option.map_some, SparseArray.values_foldl_put]

section

variable [IntCast K] [Mul K]

/-- What the post processor does to the overlay. -/
theorem receiveDetections_mOverlay (processor : PostProcessor K)
    (items : Option (SparseArray (DLibFace68 K))) :
    (receiveDetections processor (some items)).mOverlay =
      match items.map SparseArray.values with
      | none => processor.mOverlay
      | some values => processor.mOverlay.setFaces values := by
  cases items with
  | none => rfl
  | some faces =>
      simp only [receiveDetections, SparseArray.filterMap_get_keyAt,
        Option.map_some]

/-- `receiveFrame`: `detect`, then `receiveDetections` with its items. -/
def receiveFrame (pipeline : Pipeline K) (frame : Frame)
    (faces : SparseArray (VisionFace R))
    (findLandmarksFromFaces : FindLandmarks K) : Pipeline K :=
  let (detector, items) :=
    detect pipeline.detector frame faces findLandmarksFromFaces
  { detector := detector
    processor := receiveDetections pipeline.processor (some items) }

/-- The overlay behind a frame: its faces, or what was there before when the
detection failed. -/
theorem receiveFrame_overlay (pipeline : Pipeline K) (frame : Frame)
    (faces : SparseArray (VisionFace R))
    (findLandmarksFromFaces : FindLandmarks K) :
    (receiveFrame pipeline frame faces findLandmarksFromFaces).overlay =
      match detectedFaces pipeline.detector.mIsFrontCamera frame faces
          findLandmarksFromFaces with
      | none => pipeline.overlay
      | some values => pipeline.overlay.setFaces values := by
  rw [← detect_items]
  exact receiveDetections_mOverlay _ _

/-- After a frame the overlay holds exactly its faces, scaled to the preview
size; it holds none when the frame has none or its detection failed. -/
def ShowsFrame (pipeline : Pipeline K) : PipelineEvent K → Prop
  | .receiveFrame frame faces findLandmarksFromFaces =>
      (receiveFrame pipeline frame faces findLandmarksFromFaces).overlay.mFaces =
        ((detectedFaces pipeline.detector.mIsFrontCamera frame faces
            findLandmarksFromFaces).getD []).map fun face =>
          face.scaled (pipeline.overlay.mPreviewWidth : K)
            (pipeline.overlay.mPreviewHeight : K)
  | .setCameraPreviewSize _ _ => True

/-- The detection of the frame succeeds, or the overlay is empty. -/
def NoFailureOverFaces (pipeline : Pipeline K) : PipelineEvent K → Prop
  | .receiveFrame frame faces findLandmarksFromFaces =>
      detectedFaces pipeline.detector.mIsFrontCamera frame faces
          findLandmarksFromFaces = none →
        pipeline.overlay.mFaces = []
  | .setCameraPreviewSize _ _ => True

/-- Step lemma: a frame is shown exactly when its detection succeeds or nothing
is on the overlay. -/
theorem showsFrame_iff (pipeline : Pipeline K) (event : PipelineEvent K) :
    ShowsFrame pipeline event ↔ NoFailureOverFaces pipeline event := by
  cases event with
  | receiveFrame frame faces findLandmarksFromFaces =>
      simp only [ShowsFrame, NoFailureOverFaces, receiveFrame_overlay]
      cases detectedFaces pipeline.detector.mIsFrontCamera frame faces
          findLandmarksFromFaces with
      | none => simp
      | some values => simp
  | setCameraPreviewSize width height => exact Iff.rfl

/-! ## Runs -/

variable [Div K] [Min K]

/-- The pipeline after an event. -/
def Pipeline.after (pipeline : Pipeline K) : PipelineEvent K → Pipeline K
  | .receiveFrame frame faces findLandmarksFromFaces =>
      receiveFrame pipeline frame faces findLandmarksFromFaces
  | .setCameraPreviewSize width height =>
      { pipeline with
        processor :=
          { pipeline.processor with
            mOverlay :=
              pipeline.overlay.setCameraPreviewSize width height } }

/-- One event of a run. -/
def pipelineStep (pipeline : Pipeline K) (event : PipelineEvent K) :
    Option (Pipeline K) :=
  some (pipeline.after event)

/-- Every frame of a run is shown exactly when no detection of the run fails
while faces are on the overlay. -/
theorem eachFrameIsShown_iff (pipeline : Pipeline K)
    (events : List (PipelineEvent K)) :
    EachStep pipelineStep ShowsFrame pipeline events ↔
      EachStep pipelineStep NoFailureOverFaces pipeline events :=
  eachStep_congr showsFrame_iff

end

/-- A fresh pipeline on an overlay of 320 by 240. -/
def freshPipeline : Pipeline ℚ where
  detector := { mIsFrontCamera := true, mDetFaces := SparseArray.empty }
  processor :=
    { mOverlay := View.FaceLandmarksOverlayView.new 320 240, mFaces := [] }

/-- A frame in which Google Vision finds one face. -/
def frameWithFace (findLandmarksFromFaces : FindLandmarks ℚ) :
    PipelineEvent ℚ :=
  .receiveFrame
    { metadata := { width := 320, height := 240, rotation := .rotation90 }
      hasBitmap := false }
    { entries := [(0, { position := ⟨0, 0⟩, width := 60, height := 60 })]
      sorted := List.pairwise_singleton _ _ }
    findLandmarksFromFaces

/-- The face of the first frame is still on the overlay after the detection of
the second has failed. -/
theorem failed_frame_shows_earlier_face :
    ¬ EachStep pipelineStep ShowsFrame freshPipeline
        [frameWithFace fun _ _ => some [{ mBound := ⟨0, 0, 1, 1⟩
                                          mLandmarks := [] }],
          frameWithFace fun _ _ => none] := by
  rintro ⟨_, hsecond⟩
  have hshown := (hsecond _ rfl).1
  have hlength := congrArg List.length hshown
  exact absurd hlength (by decide)

end Detector
end ImportDlibDemo
