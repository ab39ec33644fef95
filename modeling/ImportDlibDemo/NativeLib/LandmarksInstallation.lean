import ImportDlibDemo.Library.GuardedRun
import ImportDlibDemo.NativeLib.EntryPoints

/-!
# When a landmarks detector is installed atomically

The native library as a state machine over its globals.  Preparing reads the
file into the global first and counts its parts afterwards, so a rejected model
stays installed, and a file that cannot be read ends the process.

`installedAtomically_iff` states which files keep the contract: models with 68
parts, and rejected models that are the installed one already.
-/

namespace ImportDlibDemo
namespace NativeLib

open Dlib
open Library.GuardedRun

variable {F : Type}

/-- The calls Java makes into the library. -/
inductive Call (F : Type)
  | isFaceDetectorReady
  | isFaceLandmarksDetectorReady
  | prepareFaceDetector
  | prepareFaceLandmarksDetector (file : ModelFile (ShapePredictorStream F))
  | prepareLegoToyDetector (file : ModelFile (FieldRead ObjectDetector))
  | detect (entry : EntryPoint F) (bitmap : Bitmap)

/-- The globals behind a call that returned; nothing behind one that ended the
process. -/
def PrepareEnd.globals? : PrepareEnd F → Option (Globals F)
  | .returned globals _ => some globals
  | .terminated _ _ => none

/-- One call.  A detection call changes no global; one that lost all meaning
ends the run. -/
def step [CFloat F] (dlib : DlibRuntime F) (globals : Globals F) :
    Call F → Option (Globals F)
  | .isFaceDetectorReady => some globals
  | .isFaceLandmarksDetectorReady => some globals
  | .prepareFaceDetector => (prepareFaceDetector dlib globals).globals?
  | .prepareFaceLandmarksDetector file =>
      (prepareFaceLandmarksDetector file globals).globals?
  | .prepareLegoToyDetector file =>
      (prepareLegoToyDetector file globals).globals?
  | .detect entry bitmap =>
      if (entry.run dlib globals bitmap).undefined then none else some globals

/-- Ready means a predictor with exactly 68 parts. -/
def ReadyMeans68 (globals : Globals F) : Prop :=
  isFaceLandmarksDetectorReady globals = true →
    globals.sFaceLandmarksDetector.numParts = 68

/-- The predictor a model file holds, if it holds one. -/
def ModelFile.predictor? (file : ModelFile (ShapePredictorStream F)) :
    Option (ShapePredictor F) :=
  file.contents.bind ShapePredictorStream.predictor?

/-- Installed: the call returns with the 68-part model of the file in place. -/
def Installs (file : ModelFile (ShapePredictorStream F)) (globals : Globals F)
    (result : PrepareEnd F) : Prop :=
  ∃ predictor, file.predictor? = some predictor ∧ predictor.numParts = 68 ∧
    result =
      .returned { globals with sFaceLandmarksDetector := predictor } []

/-- Refused: the call returns with a Java exception and changes nothing. -/
def RefusesUnchanged (globals : Globals F) (result : PrepareEnd F) : Prop :=
  ∃ thrown, thrown ≠ [] ∧ result = .returned globals thrown

/-- What a call owes: preparing the landmarks detector installs the model of
the file or refuses it unchanged. -/
def KeepsContract (globals : Globals F) (call : Call F) : Prop :=
  ∀ file, call = .prepareFaceLandmarksDetector file →
    Installs file globals (prepareFaceLandmarksDetector file globals) ∨
      RefusesUnchanged globals (prepareFaceLandmarksDetector file globals)

/-- The contract of a whole run: ready always means 68 parts, and every call
keeps its contract. -/
def InstalledAtomically [CFloat F] (dlib : DlibRuntime F) (globals : Globals F)
    (calls : List (Call F)) : Prop :=
  Always (step dlib) ReadyMeans68 globals calls ∧
    EachStep (step dlib) KeepsContract globals calls

/-- A prepared file holds a model that is harmless here: it has 68 parts, or it
is the installed model. -/
def PreparesHarmlessFile (globals : Globals F) (call : Call F) : Prop :=
  ∀ file, call = .prepareFaceLandmarksDetector file →
    ∃ predictor, file.predictor? = some predictor ∧
      (predictor.numParts = 68 ∨ predictor = globals.sFaceLandmarksDetector)

/-! ## One call to prepare -/

section Prepare

variable {file : ModelFile (ShapePredictorStream F)} {globals : Globals F}

theorem prepare_of_predictor {predictor : ShapePredictor F}
    (hfile : file.predictor? = some predictor) :
    prepareFaceLandmarksDetector file globals =
      .returned { globals with sFaceLandmarksDetector := predictor }
        (if predictor.numParts ≠ 68 then
          ["It's not a 68 landmarks detector!"]
        else []) := by
  obtain ⟨stream, hcontents, hstream⟩ := Option.bind_eq_some_iff.mp hfile
  have hread : ShapePredictor.deserialize stream
      globals.sFaceLandmarksDetector = .ok predictor :=
    ShapePredictor.deserialize_eq_ok_iff.mpr hstream
  unfold prepareFaceLandmarksDetector
  simp only [hcontents, hread]

theorem predictor_of_prepare {after : Globals F} {thrown : List String}
    (hprepare : prepareFaceLandmarksDetector file globals =
      .returned after thrown) :
    ∃ predictor, file.predictor? = some predictor := by
  unfold prepareFaceLandmarksDetector at hprepare
  cases hcontents : file.contents with
  | none => simp [hcontents] at hprepare
  | some stream =>
      cases hread : ShapePredictor.deserialize stream
          globals.sFaceLandmarksDetector with
      | error broken => simp [hcontents, hread] at hprepare
      | ok predictor =>
          refine ⟨predictor, ?_⟩
          rw [ModelFile.predictor?, hcontents]
          exact ShapePredictor.deserialize_eq_ok_iff.mp hread

theorem with_predictor_eq_iff {predictor : ShapePredictor F} :
    { globals with sFaceLandmarksDetector := predictor } = globals ↔
      predictor = globals.sFaceLandmarksDetector := by
  constructor
  · intro hsame
    exact congrArg Globals.sFaceLandmarksDetector hsame
  · rintro rfl
    rfl

/-- Preparing a file keeps the contract exactly when the file is harmless. -/
theorem keepsContract_iff (call : Call F) :
    KeepsContract globals call ↔ PreparesHarmlessFile globals call := by
  refine forall_congr' fun file => imp_congr_right fun _ => ?_
  constructor
  · rintro (⟨predictor, hfile, hparts, _⟩ | ⟨thrown, hthrown, hreturned⟩)
    · exact ⟨predictor, hfile, Or.inl hparts⟩
    · -- The call overwrote the global, so unchanged means the same model.
      obtain ⟨predictor, hfile⟩ := predictor_of_prepare hreturned
      rw [prepare_of_predictor hfile] at hreturned
      obtain ⟨hsame, _⟩ := PrepareEnd.returned.inj hreturned
      exact ⟨predictor, hfile, Or.inr (with_predictor_eq_iff.mp hsame)⟩
  · rintro ⟨predictor, hfile, hharmless⟩
    by_cases hparts : predictor.numParts = 68
    · left
      refine ⟨predictor, hfile, hparts, ?_⟩
      rw [prepare_of_predictor hfile, if_neg (not_not.mpr hparts)]
    · right
      have hsame := with_predictor_eq_iff.mpr (hharmless.resolve_left hparts)
      refine ⟨["It's not a 68 landmarks detector!"], by simp, ?_⟩
      rw [prepare_of_predictor hfile, if_pos hparts, hsame]

end Prepare

/-! ## Whole runs -/

theorem readyMeans68_loaded : ReadyMeans68 (Globals.loaded : Globals F) := by
  intro hready
  simp [isFaceLandmarksDetectorReady, Globals.loaded, ShapePredictor.numParts,
    ShapePredictor.new] at hready

section Runs

variable [CFloat F] {dlib : DlibRuntime F}

/-- Inversion: a call that returns installs one detector, or leaves the globals
alone. -/
theorem step_cases {globals next : Globals F} {call : Call F}
    (hstep : step dlib globals call = some next) :
    (call = .prepareFaceDetector ∧
        next = { globals with sFaceDetector := dlib.frontalFaceDetector }) ∨
      (∃ file predictor, call = .prepareFaceLandmarksDetector file ∧
        file.predictor? = some predictor ∧
        next = { globals with sFaceLandmarksDetector := predictor }) ∨
      (∃ file detector, call = .prepareLegoToyDetector file ∧
        file.contents = some (.read detector) ∧
        next = { globals with sToyDetector := detector }) ∨
      next = globals := by
  cases call with
  | isFaceDetectorReady => exact Or.inr (Or.inr (Or.inr (Option.some.inj hstep).symm))
  | isFaceLandmarksDetectorReady =>
      exact Or.inr (Or.inr (Or.inr (Option.some.inj hstep).symm))
  | prepareFaceDetector => exact Or.inl ⟨rfl, (Option.some.inj hstep).symm⟩
  | prepareFaceLandmarksDetector file =>
      right
      left
      rw [step] at hstep
      cases hprepare : prepareFaceLandmarksDetector file globals with
      | terminated after what =>
          rw [hprepare] at hstep
          cases hstep
      | returned after thrown =>
          obtain ⟨predictor, hfile⟩ := predictor_of_prepare hprepare
          rw [prepare_of_predictor hfile] at hstep
          exact ⟨file, predictor, rfl, hfile, (Option.some.inj hstep).symm⟩
  | prepareLegoToyDetector file =>
      -- Only a file that can be read leaves the process alive.
      obtain ⟨path, contents⟩ := file
      cases contents with
      | none => cases hstep
      | some contents =>
          cases contents with
          | broken left info => cases hstep
          | read detector =>
              refine Or.inr (Or.inr (Or.inl ⟨_, detector, rfl, rfl, ?_⟩))
              exact (Option.some.inj hstep).symm
  | detect entry bitmap =>
      rw [step] at hstep
      split at hstep
      · cases hstep
      · exact Or.inr (Or.inr (Or.inr (Option.some.inj hstep).symm))

/-- Only preparing it touches the landmarks detector. -/
theorem step_landmarks_eq {globals next : Globals F} {call : Call F}
    (hother : ∀ file, call ≠ .prepareFaceLandmarksDetector file)
    (hstep : step dlib globals call = some next) :
    next.sFaceLandmarksDetector = globals.sFaceLandmarksDetector := by
  rcases step_cases hstep with
    ⟨_, rfl⟩ | ⟨file, _, hcall, _⟩ | ⟨_, _, _, _, rfl⟩ | rfl
  · rfl
  · exact absurd hcall (hother file)
  · rfl
  · rfl

/-- Only preparing it touches the face detector. -/
theorem step_face_eq {globals next : Globals F} {call : Call F}
    (hother : call ≠ .prepareFaceDetector)
    (hstep : step dlib globals call = some next) :
    next.sFaceDetector = globals.sFaceDetector := by
  rcases step_cases hstep with
    ⟨hcall, _⟩ | ⟨_, _, _, _, rfl⟩ | ⟨_, _, _, _, rfl⟩ | rfl
  · exact absurd hcall hother
  · rfl
  · rfl
  · rfl

/-- A call that keeps its contract keeps the meaning of ready. -/
theorem readyMeans68_step {globals next : Globals F} {call : Call F}
    (hready : ReadyMeans68 globals) (hcontract : KeepsContract globals call)
    (hstep : step dlib globals call = some next) : ReadyMeans68 next := by
  by_cases hprepare : ∃ file, call = .prepareFaceLandmarksDetector file
  · obtain ⟨file, rfl⟩ := hprepare
    rw [step] at hstep
    rcases hcontract file rfl with
      ⟨predictor, _, hparts, hreturned⟩ | ⟨thrown, _, hreturned⟩
    · rw [hreturned] at hstep
      cases hstep
      exact fun _ => hparts
    · rw [hreturned] at hstep
      cases hstep
      exact hready
  · have hsame := step_landmarks_eq (not_exists.mp hprepare) hstep
    unfold ReadyMeans68 isFaceLandmarksDetectorReady
    rw [hsame]
    exact hready

/-- From the loaded library, a run installs atomically exactly when every file
it prepares holds a 68-part model or the very model that is installed. -/
theorem installedAtomically_iff (dlib : DlibRuntime F)
    (calls : List (Call F)) :
    InstalledAtomically dlib Globals.loaded calls ↔
      EachStep (step dlib) PreparesHarmlessFile Globals.loaded calls := by
  rw [← eachStep_congr fun globals call => keepsContract_iff call]
  constructor
  · exact And.right
  · intro hcontract
    refine ⟨?_, hcontract⟩
    have hpreserve : ∀ globals call next, ReadyMeans68 globals →
        KeepsContract globals call → step dlib globals call = some next →
          ReadyMeans68 next :=
      fun _ _ _ => readyMeans68_step
    exact always_of_eachStep hpreserve readyMeans68_loaded hcontract

end Runs

/-- A readable model with two parts. -/
def twoPartStream : ShapePredictorStream ℚ where
  version := .read 1
  initialShape := .read [0, 0, 1, 1]
  forests := .read []
  anchorIdx := .read []
  deltas := .read []

/-- A rejected model stays installed, and the library answers that it is
ready. -/
theorem rejected_model_stays_installed :
    let file : ModelFile (ShapePredictorStream ℚ) :=
      { path := "five_points.dat", contents := some twoPartStream }
    let dlib : DlibRuntime ℚ :=
      { detect := fun _ _ => [], predict := fun _ _ _ => []
        frontalFaceDetector := ObjectDetector.new }
    (∃ after, prepareFaceLandmarksDetector file Globals.loaded =
        .returned after ["It's not a 68 landmarks detector!"] ∧
      isFaceLandmarksDetectorReady after = true) ∧
    ¬ InstalledAtomically dlib Globals.loaded
        [.prepareFaceLandmarksDetector file] := by
  intro file dlib
  constructor
  · exact ⟨_, rfl, rfl⟩
  · rintro ⟨halways, _⟩
    have hready := halways.2 _ rfl
    exact absurd (hready rfl) (by decide)

end NativeLib
end ImportDlibDemo
