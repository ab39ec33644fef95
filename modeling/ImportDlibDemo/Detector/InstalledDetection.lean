import ImportDlibDemo.Data.LandmarkParts
import ImportDlibDemo.Detector.WireTransport
import ImportDlibDemo.NativeLib.DlibAlgorithms
import ImportDlibDemo.NativeLib.InstalledModel

/-!
# What the app gets from an installed model

The detector and the predictor of dlib in the place of the `DlibRuntime`, the
wire between the native code and Java.  As long as every model file that is
prepared is well formed and has 68 parts, detection is defined in every state
the library reaches, and every face arrives with 68 landmarks
(`faces_of_run`).
-/

namespace ImportDlibDemo
namespace Detector

open Dlib
open Library
open Library.GuardedRun
open NativeLib

/-- Every landmarks model that is prepared is well formed and has 68 parts. -/
def PreparesWellFormed (_ : Globals Binary32) (call : Call Binary32) : Prop :=
  ∀ file predictor, call = .prepareFaceLandmarksDetector file →
    file.predictor? = some predictor →
      predictor.WellFormed ∧ predictor.numParts = 68

/-- Every detector of toys that is prepared has its thresholds. -/
def PreparesThresholds (_ : Globals Binary32) (call : Call Binary32) : Prop :=
  ∀ file toys, call = .prepareLegoToyDetector file →
    file.contents = some (.read toys) → toys.HasThresholds

/-- The installed predictor is well formed, and ready means 68 parts. -/
structure Usable (globals : Globals Binary32) : Prop where
  wellFormed : globals.sFaceLandmarksDetector.WellFormed
  ready : ReadyMeans68 globals

theorem hasThresholds_new : ObjectDetector.new.HasThresholds := by
  intro weights hweights
  cases hweights

theorem usable_loaded : Usable (Globals.loaded : Globals Binary32) := by
  refine ⟨?_, readyMeans68_loaded⟩
  constructor <;> simp [Globals.loaded, ShapePredictor.new]

/-- Usable means 68 parts, or none. -/
theorem Usable.numParts_le {globals : Globals Binary32} (husable : Usable globals) :
    globals.sFaceLandmarksDetector.numParts ≤ 68 := by
  by_cases hready : isFaceLandmarksDetectorReady globals = true
  · exact (husable.ready hready).le
  · have hnone := of_decide_eq_false (Bool.not_eq_true _ ▸ hready)
    omega

theorem usable_step {dlib : DlibRuntime Binary32}
    {globals next : Globals Binary32} {call : Call Binary32}
    (husable : Usable globals) (hfile : PreparesWellFormed globals call)
    (hstep : step dlib globals call = some next) : Usable next := by
  obtain ⟨hwell, hready⟩ := husable
  rcases step_cases hstep with
    ⟨_, rfl⟩ | ⟨file, predictor, hcall, hpredictor, rfl⟩ | ⟨_, _, _, _, rfl⟩ | rfl
  · exact ⟨hwell, hready⟩
  · obtain ⟨hwell, hparts⟩ := hfile file predictor hcall hpredictor
    exact ⟨hwell, fun _ => hparts⟩
  · exact ⟨hwell, hready⟩
  · exact ⟨hwell, hready⟩

/-- The face detector has the thresholds of the frontal one. -/
theorem faceThresholds_step {dlib : DlibRuntime Binary32}
    (hfrontal : dlib.frontalFaceDetector.HasThresholds)
    {globals next : Globals Binary32} {call : Call Binary32}
    (hthresholds : globals.sFaceDetector.HasThresholds)
    (hstep : step dlib globals call = some next) :
    next.sFaceDetector.HasThresholds := by
  by_cases hprepare : call = .prepareFaceDetector
  · subst hprepare
    cases hstep
    exact hfrontal
  · rw [step_face_eq hprepare hstep]
    exact hthresholds

/-- The library is usable, and both detectors have their thresholds. -/
structure AllUsable (globals : Globals Binary32) : Prop extends Usable globals where
  faceThresholds : globals.sFaceDetector.HasThresholds
  toyThresholds : globals.sToyDetector.HasThresholds

theorem allUsable_loaded : AllUsable (Globals.loaded : Globals Binary32) :=
  ⟨usable_loaded, hasThresholds_new, hasThresholds_new⟩

theorem allUsable_step {dlib : DlibRuntime Binary32}
    (hfrontal : dlib.frontalFaceDetector.HasThresholds)
    {globals next : Globals Binary32} {call : Call Binary32}
    (husable : AllUsable globals) (hfile : PreparesWellFormed globals call)
    (htoys : PreparesThresholds globals call)
    (hstep : step dlib globals call = some next) : AllUsable next := by
  refine ⟨usable_step husable.toUsable hfile hstep,
    faceThresholds_step hfrontal husable.faceThresholds hstep, ?_⟩
  have hthresholds := husable.toyThresholds
  rcases step_cases hstep with
    ⟨_, rfl⟩ | ⟨_, _, _, _, rfl⟩ | ⟨file, toys, hcall, hread, rfl⟩ | rfl
  · exact hthresholds
  · exact hthresholds
  · exact htoys file toys hcall hread
  · exact hthresholds

/-- What the entry points run of dlib is defined. -/
structure RunsDefined (std : DescendingSort) (scanner : FhogScanner)
    (geometry : ShapeGeometry Binary32) (globals : Globals Binary32) : Prop where
  faces : ∀ img, ∃ dets, globals.sFaceDetector.finalDets std scanner img = some dets
  toys : ∀ img, ∃ dets, globals.sToyDetector.finalDets std scanner img = some dets
  landmarks : ∀ img rect, ∃ parts,
    globals.sFaceLandmarksDetector.run geometry img rect = some parts

theorem AllUsable.runsDefined {std : DescendingSort} {scanner : FhogScanner}
    {geometry : ShapeGeometry Binary32} {globals : Globals Binary32}
    (husable : AllUsable globals) : RunsDefined std scanner geometry globals where
  faces _ := (ObjectDetector.reports_finalDets _ _ _ husable.faceThresholds).imp
    fun _ hdets => hdets.1
  toys _ := (ObjectDetector.reports_finalDets _ _ _ husable.toyThresholds).imp
    fun _ hdets => hdets.1
  landmarks img rect := (ShapePredictor.exists_run husable.wellFormed img rect).imp
    fun _ hparts => hparts.1

/-! ## Faces of a usable model -/

section Faces

variable {std : DescendingSort} {scanner : FhogScanner}
  {geometry : ShapeGeometry Binary32}
  {frontalFaceDetector : ObjectDetector}
  {input : Proto.CodedInputStream} {runtime : Data.Messages.ProtobufRuntime}
  {globals : Globals Binary32} {bitmap : Bitmap}

/-- The faces of a bitmap: one for each box, in the order of confidence; each
has the 68 landmarks its predictor places, none of whose getters throws. -/
structure FacesOf (dlib : DlibRuntime Binary32)
    (scanner : FhogScanner) (geometry : ShapeGeometry Binary32)
    (globals : Globals Binary32) (bitmap : Bitmap) (dets : List RectDetection)
    (faces : List (Data.DLibFace68 Binary32)) : Prop where
  reports : globals.sFaceDetector.Reports scanner
    (convertBitmapToArray2d bitmap Array2d.new).out dets
  placed : ∀ det ∈ dets, ∃ parts,
    globals.sFaceLandmarksDetector.run geometry
      (convertBitmapToArray2d bitmap Array2d.new).out det.rect = some parts ∧
      parts.length = 68
  each : faces =
    (dets.map RectDetection.rect).map (faceOf dlib globals bitmap)
  landmarks : ∀ face ∈ faces, face.mLandmarks.length = 68 ∧
    face.concatenation = some (face.mLandmarks.eraseIdx 27)

/-- The message of the faces of a bitmap has a size that an `int` holds, as
long as they are not too many. -/
theorem faceList_small (husable : Usable globals) (img : Array2d RgbPixel)
    {rects : List Rectangle} (hmany : rects.length ≤ 2 ^ 20) :
    FaceList.byteSizeLong
      ((rects.map (faceMessage
        (dlibAlgorithms std scanner geometry frontalFaceDetector) globals
          img)).map faceFields) < 2 ^ 31 := by
  refine (FaceList.byteSizeLong_le ?_).trans_lt ?_
  · intro fields hfields
    simp only [List.map_map, List.mem_map] at hfields
    obtain ⟨rect, _, rfl⟩ := hfields
    simp only [Function.comp_apply, faceFields, faceMessage, List.length_map]
    rw [length_predict std scanner geometry frontalFaceDetector
      husable.wellFormed]
    exact husable.numParts_le
  · rw [List.length_map, List.length_map]
    omega

/-- The faces of bounds that go to a library whose state is usable, and come
back. -/
theorem findLandmarksFromFaces_of_usable (hinput : input.Documented)
    (hruntime : runtime.Documented) (husable : Usable globals)
    (haccepted : bitmap.Accepted) {bounds : List Android.Rect}
    (hmany : bounds.length ≤ 2 ^ 20) :
    findLandmarksFromFaces (wireProtobuf input runtime)
        (dlibAlgorithms std scanner geometry frontalFaceDetector) globals bitmap
        bounds =
      .returned ((bounds.map sentBound).map
        (faceOf (dlibAlgorithms std scanner geometry frontalFaceDetector) globals
          bitmap)) := by
  obtain ⟨hundefined, hthrown, _⟩ := convert_of_accepted haccepted Array2d.new
  refine findLandmarksFromFaces_sent hinput hruntime hundefined hthrown ?_ ?_
  · refine (RectFList.byteSizeLong_le _).trans_lt ?_
    rw [List.length_map]
    omega
  · apply faceList_small husable
    rw [List.length_map]
    exact hmany

variable (geometry frontalFaceDetector) in
/-- The boxes of a face detector with thresholds. -/
theorem detectedRects_eq {dets : List RectDetection}
    (hdets : globals.sFaceDetector.finalDets std scanner
      (convertBitmapToArray2d bitmap Array2d.new).out = some dets) :
    detectedRects (dlibAlgorithms std scanner geometry frontalFaceDetector) globals
      bitmap = dets.map RectDetection.rect := by
  unfold detectedRects dlibAlgorithms
  simp only [hdets, Option.getD_some]

theorem faces_of_usable (hruntime : runtime.Documented) (husable : Usable globals)
    (hthresholds : globals.sFaceDetector.HasThresholds)
    (hface : isFaceDetectorReady globals = true)
    (hlandmarks : isFaceLandmarksDetectorReady globals = true)
    (haccepted : bitmap.Accepted)
    (hmany : ∀ dets, globals.sFaceDetector.finalDets std scanner
      (convertBitmapToArray2d bitmap Array2d.new).out = some dets →
        dets.length ≤ 2 ^ 20) :
    ∃ dets faces,
      globals.sFaceDetector.finalDets std scanner
          (convertBitmapToArray2d bitmap Array2d.new).out = some dets ∧
        findFacesAndLandmarks (wireProtobuf input runtime)
          (dlibAlgorithms std scanner geometry frontalFaceDetector) globals
          bitmap = .returned faces ∧
        FacesOf (dlibAlgorithms std scanner geometry frontalFaceDetector) scanner
          geometry globals bitmap dets faces := by
  obtain ⟨hundefined, hthrown, _⟩ := convert_of_accepted haccepted Array2d.new
  have hparts : globals.sFaceLandmarksDetector.numParts = 68 :=
    husable.ready hlandmarks
  have hplaced : ∀ rect, ∃ parts,
      globals.sFaceLandmarksDetector.run geometry
        (convertBitmapToArray2d bitmap Array2d.new).out rect = some parts ∧
        parts.length = 68 := by
    intro rect
    rw [← hparts]
    exact ShapePredictor.exists_run husable.wellFormed _ rect
  have hpredict : ∀ rect,
      ((dlibAlgorithms std scanner geometry frontalFaceDetector).predict
        globals.sFaceLandmarksDetector
        (convertBitmapToArray2d bitmap Array2d.new).out rect).length = 68 :=
    fun rect => (length_predict std scanner geometry frontalFaceDetector
      husable.wellFormed _ rect).trans hparts
  obtain ⟨dets, hdets, hreports⟩ := ObjectDetector.reports_finalDets std scanner
    (convertBitmapToArray2d bitmap Array2d.new).out hthresholds
  have hrects := detectedRects_eq geometry frontalFaceDetector hdets
  have hcount : (detectedRects
      (dlibAlgorithms std scanner geometry frontalFaceDetector) globals
        bitmap).length ≤ 2 ^ 20 := by
    rw [hrects, List.length_map]
    exact hmany dets hdets
  refine ⟨dets, _, hdets, findFacesAndLandmarks_wire hruntime hundefined hthrown
    hface hlandmarks (faceList_small husable _ hcount), hreports,
    fun det _ => hplaced det.rect, by rw [hrects], ?_⟩
  intro face hface
  obtain ⟨rect, _, rfl⟩ := List.mem_map.mp hface
  have hlength : (faceOf
      (dlibAlgorithms std scanner geometry frontalFaceDetector) globals bitmap
        rect).mLandmarks.length = 68 :=
    (List.length_map _).trans (hpredict rect)
  exact ⟨hlength, Data.DLibFace68.concatenation_eq hlength⟩

/-- In every state the library reaches while only well-formed models with 68
parts are prepared, an accepted bitmap gives its faces as soon as both detectors
are ready. -/
theorem faces_of_run (hfrontal : frontalFaceDetector.HasThresholds)
    (hruntime : runtime.Documented) {calls : List (Call Binary32)}
    (hfiles : EachStep
      (step (dlibAlgorithms std scanner geometry frontalFaceDetector))
      PreparesWellFormed Globals.loaded calls)
    (hrun : run (step (dlibAlgorithms std scanner geometry frontalFaceDetector))
      Globals.loaded calls = some globals)
    (hface : isFaceDetectorReady globals = true)
    (hlandmarks : isFaceLandmarksDetectorReady globals = true)
    (haccepted : bitmap.Accepted)
    (hmany : ∀ dets, globals.sFaceDetector.finalDets std scanner
      (convertBitmapToArray2d bitmap Array2d.new).out = some dets →
        dets.length ≤ 2 ^ 20) :
    ∃ dets faces,
      globals.sFaceDetector.finalDets std scanner
          (convertBitmapToArray2d bitmap Array2d.new).out = some dets ∧
        findFacesAndLandmarks (wireProtobuf input runtime)
          (dlibAlgorithms std scanner geometry frontalFaceDetector) globals
          bitmap = .returned faces ∧
        FacesOf (dlibAlgorithms std scanner geometry frontalFaceDetector) scanner
          geometry globals bitmap dets faces := by
  have husable : Usable globals := by
    have halways := always_of_eachStep
      (fun _ _ _ husable hfile hstep => usable_step husable hfile hstep)
      usable_loaded hfiles
    exact halways.last hrun
  have hthresholds : globals.sFaceDetector.HasThresholds := by
    have halways : Always
        (step (dlibAlgorithms std scanner geometry frontalFaceDetector))
        (fun globals => globals.sFaceDetector.HasThresholds) Globals.loaded calls :=
      always_of_step
        (fun _ _ _ hthresholds hstep =>
          faceThresholds_step hfrontal hthresholds hstep)
        hasThresholds_new calls
    exact halways.last hrun
  exact faces_of_usable hruntime husable hthresholds hface hlandmarks haccepted hmany

end Faces

/-! ## A model with a tree -/

theorem oneTree_wellFormed : oneTree.WellFormed := by
  apply ShapePredictor.wellFormed_of_oneLevel rfl (by decide +kernel)
  intro tree htree
  obtain rfl := List.mem_singleton.mp htree
  exact ⟨by decide, rfl, by decide +kernel⟩

/-- The model in the stream of its file. -/
def oneTreeFile : ModelFile (ShapePredictorStream Binary32) where
  path := "tree.dat"
  contents :=
    some
      { version := .read 1
        initialShape := .read oneTree.initialShape
        forests := .read oneTree.forests
        anchorIdx := .read oneTree.anchorIdx
        deltas := .read oneTree.deltas }

theorem oneTreeFile_preparesWellFormed (globals : Globals Binary32) :
    PreparesWellFormed globals (.prepareFaceLandmarksDetector oneTreeFile) := by
  intro file predictor hcall hpredictor
  cases hcall
  cases hpredictor
  exact ⟨oneTree_wellFormed, oneTree_numParts⟩

/-- The face is the pixel. -/
theorem oneTree_faces_of_run :
    let dlib := dlibAlgorithms .stable blueScanner pixelGeometry oneFilter
    let globals : Globals Binary32 :=
      { sFaceLandmarksDetector := oneTree
        sFaceDetector := oneFilter
        sToyDetector := ObjectDetector.new }
    ∃ dets faces,
      oneFilter.finalDets .stable blueScanner
          (convertBitmapToArray2d greenPixel.toBitmap Array2d.new).out = some dets ∧
        findFacesAndLandmarks
          (wireProtobuf Proto.flatStream Data.Messages.plainRuntime) dlib globals
          greenPixel.toBitmap = .returned faces ∧
        FacesOf dlib blueScanner pixelGeometry globals greenPixel.toBitmap dets
          faces := by
  intro dlib globals
  have hfiles : EachStep (step dlib) PreparesWellFormed Globals.loaded
      [.prepareFaceDetector, .prepareFaceLandmarksDetector oneTreeFile] := by
    refine ⟨?_, fun next _ => ⟨oneTreeFile_preparesWellFormed next,
      fun _ _ => trivial⟩⟩
    intro file predictor hcall
    cases hcall
  have hone : ((oneFilter.finalDets .stable blueScanner
      (convertBitmapToArray2d greenPixel.toBitmap Array2d.new).out).map List.length) =
        some 1 := by
    decide +kernel
  refine faces_of_run oneFilter_hasThresholds Data.Messages.documented_plainRuntime
    hfiles rfl rfl (by decide +kernel) accepted_greenPixel ?_
  intro dets hdets
  have hdets : oneFilter.finalDets .stable blueScanner
      (convertBitmapToArray2d greenPixel.toBitmap Array2d.new).out = some dets :=
    hdets
  rw [hdets] at hone
  rw [Option.some.inj hone]
  decide

end Detector
end ImportDlibDemo
