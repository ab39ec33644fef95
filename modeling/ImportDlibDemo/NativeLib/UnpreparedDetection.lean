import ImportDlibDemo.NativeLib.ConversionContainment
import ImportDlibDemo.NativeLib.ConvertBitmapChannels
import ImportDlibDemo.NativeLib.LandmarksInstallation

/-!
# Which detections refuse an unprepared detector

A detection owes its caller a `RuntimeException` and nothing else while a
detector it uses has not been prepared.  Only `detectFacesAndLandmarks` looks at
its detectors, and it looks at the globals: what a rejected landmarks model left
behind there passes for prepared.

The session records, next to the globals, which detectors have been prepared
successfully.  `refusesUnprepared_iff` states which runs keep what is owed.
-/

namespace ImportDlibDemo
namespace NativeLib

open Dlib
open Library.GuardedRun

variable {F : Type}

/-- The detectors that have been prepared successfully so far. -/
structure Prepared where
  faceDetector : Bool
  faceLandmarksDetector : Bool
  toyDetector : Bool
  deriving DecidableEq, Repr

/-- The library in use: its globals, and what has been prepared. -/
structure Session (F : Type) where
  globals : Globals F
  prepared : Prepared

/-- The library has just been loaded and nothing is prepared. -/
def Session.loaded : Session F where
  globals := Globals.loaded
  prepared :=
    { faceDetector := false
      faceLandmarksDetector := false
      toyDetector := false }

/-- Preparing was successful: the call returned and threw nothing. -/
def PrepareEnd.succeeded : PrepareEnd F → Bool
  | .returned _ thrown => thrown.isEmpty
  | .terminated _ _ => false

/-- What is prepared behind a call. -/
def Prepared.after (prepared : Prepared) (dlib : DlibRuntime F)
    (globals : Globals F) : Call F → Prepared
  | .prepareFaceDetector =>
      { prepared with
        faceDetector := prepared.faceDetector ||
          (NativeLib.prepareFaceDetector dlib globals).succeeded }
  | .prepareFaceLandmarksDetector file =>
      { prepared with
        faceLandmarksDetector := prepared.faceLandmarksDetector ||
          (NativeLib.prepareFaceLandmarksDetector file globals).succeeded }
  | .prepareLegoToyDetector file =>
      { prepared with
        toyDetector := prepared.toyDetector ||
          (NativeLib.prepareLegoToyDetector file globals).succeeded }
  | _ => prepared

/-- The detectors an entry point uses have all been prepared. -/
def EntryPoint.UsesPrepared (prepared : Prepared) : EntryPoint F → Prop
  | .detectFacesAndLandmarks =>
      prepared.faceDetector = true ∧ prepared.faceLandmarksDetector = true
  | .detectLandmarksFromFaces _ => prepared.faceLandmarksDetector = true
  | .detectLegoToy => prepared.toyDetector = true

/-- The two entry points that check nothing are called with what they use
prepared; the one that checks the globals is called with landmarks prepared, or
while one of its detectors is empty. -/
def CallsPreparedOnly (session : Session F) (call : Call F) : Prop :=
  ∀ entry bitmap, call = .detect entry bitmap →
    match entry with
    | .detectFacesAndLandmarks =>
        session.prepared.faceLandmarksDetector = true ∨
          session.globals.sFaceDetector.numDetectors = 0 ∨
          session.globals.sFaceLandmarksDetector.numParts = 0
    | .detectLandmarksFromFaces _ =>
        session.prepared.faceLandmarksDetector = true
    | .detectLegoToy => session.prepared.toyDetector = true

/-- A face detector that was never prepared is the empty one. -/
def UnpreparedFaceDetectorEmpty (session : Session F) : Prop :=
  session.prepared.faceDetector = false →
    session.globals.sFaceDetector.numDetectors = 0

theorem unpreparedFaceDetectorEmpty_loaded :
    UnpreparedFaceDetectorEmpty (Session.loaded : Session F) := by
  intro _
  rfl

theorem Prepared.after_faceDetector (prepared : Prepared) (dlib : DlibRuntime F)
    (globals : Globals F) {call : Call F} (hother : call ≠ .prepareFaceDetector) :
    (prepared.after dlib globals call).faceDetector = prepared.faceDetector := by
  cases call with
  | prepareFaceDetector => exact absurd rfl hother
  | _ => rfl

variable [CFloat F]

/-- One call, as `step` makes it. -/
def stepSession (dlib : DlibRuntime F) (session : Session F) (call : Call F) :
    Option (Session F) :=
  (step dlib session.globals call).map fun globals =>
    { globals := globals
      prepared := session.prepared.after dlib session.globals call }

/-- What a call owes: a detection that uses an unprepared detector throws, and
runs no detector and returns no result. -/
def RefusesUnprepared (dlib : DlibRuntime F) (session : Session F)
    (call : Call F) : Prop :=
  ∀ entry bitmap, call = .detect entry bitmap →
    ¬ entry.UsesPrepared session.prepared →
      (entry.run dlib session.globals bitmap).thrown ≠ [] ∧
        (entry.run dlib session.globals bitmap).Stopped

/-! ## One call -/

/-- An entry point throws and stops exactly when it refuses before it
converts. -/
theorem stopped_iff_refuses (dlib : DlibRuntime F) (globals : Globals F)
    (bitmap : Bitmap) (entry : EntryPoint F) :
    ((entry.run dlib globals bitmap).thrown ≠ [] ∧
        (entry.run dlib globals bitmap).Stopped) ↔ entry.Refuses globals := by
  rcases run_cases dlib globals bitmap entry with
    ⟨hrefuses, message, hrun⟩ | ⟨hrefuses, body, hrun⟩
  · rw [hrun]
    exact iff_of_true ⟨List.cons_ne_nil _ _, ⟨rfl, rfl, rfl⟩⟩ hrefuses
  · rw [hrun]
    refine iff_of_false ?_ hrefuses
    rintro ⟨_, hstopped⟩
    exact convertThen_not_stopped body hstopped

/-- Step lemma: what is owed against what is called. -/
theorem refusesUnprepared_call_iff (dlib : DlibRuntime F) {session : Session F}
    (hface : UnpreparedFaceDetectorEmpty session) (call : Call F) :
    RefusesUnprepared dlib session call ↔ CallsPreparedOnly session call := by
  unfold RefusesUnprepared CallsPreparedOnly
  refine forall_congr' fun entry => forall_congr' fun bitmap =>
    imp_congr_right fun _ => ?_
  rw [stopped_iff_refuses, ← or_iff_not_imp_left]
  cases entry with
  | detectFacesAndLandmarks =>
      show (session.prepared.faceDetector = true ∧
          session.prepared.faceLandmarksDetector = true) ∨
        (session.globals.sFaceDetector.numDetectors = 0 ∨
          session.globals.sFaceLandmarksDetector.numParts = 0) ↔ _
      constructor
      · rintro (⟨_, hlandmarks⟩ | hrefuses)
        · exact Or.inl hlandmarks
        · exact Or.inr hrefuses
      · rintro (hlandmarks | hrefuses)
        · cases hprepared : session.prepared.faceDetector with
          | false => exact Or.inr (Or.inl (hface hprepared))
          | true => exact Or.inl ⟨rfl, hlandmarks⟩
        · exact Or.inr hrefuses
  | detectLandmarksFromFaces faceRects => exact or_iff_left id
  | detectLegoToy => exact or_iff_left id

/-! ## Whole runs -/

variable {dlib : DlibRuntime F}

theorem unpreparedFaceDetectorEmpty_step {session next : Session F}
    {call : Call F} (hface : UnpreparedFaceDetectorEmpty session)
    (hstep : stepSession dlib session call = some next) :
    UnpreparedFaceDetectorEmpty next := by
  obtain ⟨globals, hglobals, rfl⟩ := Option.map_eq_some_iff.mp hstep
  by_cases hprepare : call = .prepareFaceDetector
  · subst hprepare
    intro hunprepared
    simp [Prepared.after, prepareFaceDetector, PrepareEnd.succeeded]
      at hunprepared
  · intro hunprepared
    show globals.sFaceDetector.numDetectors = 0
    rw [step_face_eq hprepare hglobals]
    apply hface
    rw [← Prepared.after_faceDetector _ dlib session.globals hprepare]
    exact hunprepared

/-- From the loaded library, every detection of a run refuses what is not
prepared exactly when the calls of the run keep to what is prepared or
checked. -/
theorem refusesUnprepared_iff (dlib : DlibRuntime F) (calls : List (Call F)) :
    EachStep (stepSession dlib) (RefusesUnprepared dlib) Session.loaded calls ↔
      EachStep (stepSession dlib) CallsPreparedOnly Session.loaded calls :=
  eachStep_congr_of_invariant
    (fun _ _ _ => unpreparedFaceDetectorEmpty_step)
    (fun _ call hface => refusesUnprepared_call_iff dlib hface call)
    unpreparedFaceDetectorEmpty_loaded calls

/-- In a library that prepared nothing, looking for toys finds none, and the
landmarks of a face come back as a face without landmarks. -/
theorem unprepared_detectors_answer :
    let dlib : DlibRuntime ℚ :=
      { detect := fun _ _ => [], predict := fun _ _ _ => []
        frontalFaceDetector := ObjectDetector.new }
    let toys := detectLegoToy dlib Globals.loaded greenPixel.toBitmap
    let landmarks :=
      detectLandmarksFromFaces dlib Globals.loaded greenPixel.toBitmap
        [⟨0, 0, 1, 1⟩]
    (toys.thrown = [] ∧ toys.result = some []) ∧
      (landmarks.thrown = [] ∧
        landmarks.result.map (List.map Face.landmarks) = some [[]]) ∧
      ¬ EachStep (stepSession dlib) (RefusesUnprepared dlib) Session.loaded
        [.detect .detectLegoToy greenPixel.toBitmap] := by
  intro dlib toys landmarks
  refine ⟨?_, ?_, ?_⟩
  · decide
  · decide
  · rintro ⟨hrefuses, _⟩
    have hunprepared : ¬ (EntryPoint.detectLegoToy : EntryPoint ℚ).UsesPrepared
        (Session.loaded : Session ℚ).prepared := Bool.false_ne_true
    have hthrown := (hrefuses .detectLegoToy greenPixel.toBitmap rfl hunprepared).1
    exact hthrown (by decide)

end NativeLib
end ImportDlibDemo
