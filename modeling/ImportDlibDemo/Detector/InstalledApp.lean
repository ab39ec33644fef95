import ImportDlibDemo.Detector.Screens
import ImportDlibDemo.NativeLib.ActivityStarts

/-!
# From the assets to the overlays

The screens on a phone: their activities are created and resumed in any order,
with copies of the assets that fail or are cut off, processes come to an end,
and frames arrive on the screens that have been resumed.  The model the
landmarks are placed with is the one among the assets.

Every step of such a run is one of the phone (`device_of_step`), which never has
a part of a model, or leaves files and library alone.  So every frame is shown,
found with the whole model of its screen, and on the screens with landmarks all
its faces have the 68 of the asset (`framesArrive`).
-/

namespace ImportDlibDemo
namespace Detector

open Data
open Dlib
open Library
open Library.GuardedRun
open NativeLib
open Proto

/-- The cameras are front cameras. -/
def Screen.mIsFrontCamera : Screen → Bool
  | .cameraDetect => true
  | .photoDetect => false
  | .legoToyDetector => true

/-- What creating the activity of a screen copies and prepares. -/
def Screen.opening (screen : Screen) (script : List Utils.Outcome) : DeviceEvent :=
  match screen with
  | .legoToyDetector => .openToyScreen script
  | _ => .openLandmarksScreen script

/-- The detector that `onResume` makes for the overlay of its screen. -/
def Screen.onResume (screen : Screen)
    (overlay : View.FaceLandmarksOverlayView Binary32) : Pipeline Binary32 where
  detector := { mIsFrontCamera := screen.mIsFrontCamera, mDetFaces := SparseArray.empty }
  processor := { mOverlay := overlay, mFaces := [] }

/-- The library has the model of a screen as the asset has it. -/
def Screen.ModelInstalled (screen : Screen) (predictor : ShapePredictor Binary32)
    (toys : ObjectDetector) (globals : Globals Binary32) : Prop :=
  match screen with
  | .legoToyDetector => globals.sToyDetector = toys.settled
  | _ => globals.sFaceLandmarksDetector = predictor.map BinaryFloat.unsignZero

/-- A process: the app, the screens whose `onCreate` went through, and those that
have a detector. -/
structure Process where
  app : App
  created : Screen → Bool
  resumed : Screen → Bool

/-- The files directory, and the process if there is one. -/
structure Installation where
  dir : Utils.FilesDir
  process : Option Process

/-- What happens: an activity is created, with the outcomes of its copies and the
size of its overlay, or resumed; something happens on its screen; the process
ends. -/
inductive InstallationEvent
  | onCreate (screen : Screen) (script : List Utils.Outcome) (width height : Int)
  | onResume (screen : Screen)
  | receiveFrame (screen : Screen) (frame : Frame)
      (faces : SparseArray (VisionFace Binary32))
      (locked : Android.Bitmap → NativeLib.Bitmap)
  | setCameraPreviewSize (screen : Screen) (width height : Int)
  | endProcess

namespace Process

/-- A new process; its screens are not created yet. -/
def new : Process where
  app :=
    { globals := Globals.loaded
      pipelines := fun screen =>
        screen.onResume (View.FaceLandmarksOverlayView.new 0 0) }
  created := fun _ => false
  resumed := fun _ => false

/-- The activity of a screen is created anew: it has an overlay and no detector
yet. -/
def create (process : Process) (screen : Screen) (width height : Int)
    (globals : Globals Binary32) : Process where
  app :=
    { globals := globals
      pipelines := Function.update process.app.pipelines screen
        (screen.onResume (View.FaceLandmarksOverlayView.new width height)) }
  created := Function.update process.created screen true
  resumed := Function.update process.resumed screen false

/-- The activity of a screen makes its detector. -/
def resume (process : Process) (screen : Screen) : Process where
  app := process.app.update screen (screen.onResume (process.app.overlay screen))
  created := process.created
  resumed := Function.update process.resumed screen true

variable (process : Process) (screen : Screen) (width height : Int)
  (globals : Globals Binary32)

@[simp] theorem create_created :
    (process.create screen width height globals).created =
      Function.update process.created screen true := rfl

@[simp] theorem create_resumed :
    (process.create screen width height globals).resumed =
      Function.update process.resumed screen false := rfl

@[simp] theorem resume_resumed :
    (process.resume screen).resumed =
      Function.update process.resumed screen true := rfl

end Process

namespace Installation

/-- A fresh installation. -/
def fresh : Installation where
  dir := Utils.FilesDir.empty
  process := none

/-- The phone below: the files and the library. -/
def device (installation : Installation) : Device binary32 where
  dir := installation.dir
  process := installation.process.map fun process => process.app.globals

/-- What happens in a process that allows it. -/
def within (installation : Installation) (allowed : Process → Bool)
    (change : Process → Option Process) : Option Installation :=
  ((installation.process.filter allowed).bind change).map fun process =>
    { installation with process := some process }

/-- One event.  The run ends when the process does not allow the event, or does
not survive the frame. -/
def step (phone : Phone binary32) (proto : Protobuf) (dlib : DlibRuntime Binary32)
    (installation : Installation) : InstallationEvent → Option Installation
  | .onCreate screen script width height =>
      (phone.step installation.device (screen.opening script)).map fun device =>
        { dir := device.dir
          process := device.process.map
            ((installation.process.getD Process.new).create screen width
              height) }
  | .onResume screen =>
      installation.within (fun process => process.created screen) fun process =>
        some (process.resume screen)
  | .receiveFrame screen frame faces locked =>
      installation.within (fun process => process.resumed screen) fun process =>
        (process.app.step proto dlib
          (.receiveFrame screen frame faces locked)).map fun app =>
            { process with app := app }
  | .setCameraPreviewSize screen width height =>
      installation.within (fun process => process.created screen) fun process =>
        (process.app.step proto dlib
          (.setCameraPreviewSize screen width height)).map fun app =>
            { process with app := app }
  | .endProcess => some { installation with process := none }

/-! ## The phone below -/

theorem within_of_allowed {installation : Installation} {process : Process}
    {allowed : Process → Bool} {change : Process → Option Process}
    (hprocess : installation.process = some process)
    (hallowed : allowed process = true) :
    installation.within allowed change =
      (change process).map fun after =>
        { installation with process := some after } := by
  rw [within, hprocess, Option.filter_some_pos hallowed, Option.bind_some]

theorem within_eq_some {installation next : Installation}
    {allowed : Process → Bool} {change : Process → Option Process}
    (hwithin : installation.within allowed change = some next) :
    ∃ before after, installation.process = some before ∧
      allowed before = true ∧ change before = some after ∧
      next = { installation with process := some after } := by
  obtain ⟨after, hbind, rfl⟩ := Option.map_eq_some_iff.mp hwithin
  obtain ⟨before, hfilter, hchange⟩ := Option.bind_eq_some_iff.mp hbind
  obtain ⟨hprocess, hallowed⟩ := Option.filter_eq_some_iff.mp hfilter
  exact ⟨before, after, hprocess, hallowed, hchange, rfl⟩

/-- What comes to a screen leaves the library alone. -/
theorem globals_of_step {proto : Protobuf} {dlib : DlibRuntime Binary32}
    {app next : App} {event : AppEvent} (hcall : ∀ call, event ≠ .native call)
    (hstep : app.step proto dlib event = some next) :
    next.globals = app.globals := by
  rcases App.step_cases hstep with
    ⟨call, _, hnative, _, _⟩ | ⟨screen, pipeline, _, rfl⟩
  · exact absurd hnative (hcall call)
  · rfl

section Below

variable {phone : Phone binary32} {proto : Protobuf}
  {dlib : DlibRuntime Binary32} {installation next : Installation}

/-- What a process keeps, a step within it keeps. -/
theorem eq_of_within {event : AppEvent} {allowed : Process → Bool}
    (hcall : ∀ call, event ≠ .native call)
    (hwithin : installation.within allowed (fun process =>
      (process.app.step proto dlib event).map fun app =>
        { process with app := app }) = some next) :
    ∃ before app, installation.process = some before ∧
      allowed before = true ∧ app.globals = before.app.globals ∧
      next = { installation with process := some { before with app := app } } := by
  obtain ⟨before, after, hprocess, hallowed, hchange, rfl⟩ :=
    within_eq_some hwithin
  obtain ⟨app, happ, rfl⟩ := Option.map_eq_some_iff.mp hchange
  exact ⟨before, app, hprocess, hallowed, globals_of_step hcall happ, rfl⟩

/-- Refinement: a step of the installation is a step of the phone below, or none
at all. -/
theorem device_of_step {event : InstallationEvent}
    (hstep : installation.step phone proto dlib event = some next) :
    next.device = installation.device ∨
      ∃ below, phone.step installation.device below = some next.device := by
  cases event with
  | onCreate screen script width height =>
      right
      obtain ⟨device, hopen, rfl⟩ := Option.map_eq_some_iff.mp hstep
      refine ⟨_, hopen.trans ?_⟩
      rw [Installation.device, Option.map_map]
      exact congrArg (fun process => some (Device.mk device.dir process))
        Option.map_id'.symm
  | onResume screen =>
      left
      obtain ⟨before, after, hprocess, _, hchange, rfl⟩ := within_eq_some hstep
      cases hchange
      simp only [Installation.device, hprocess, Option.map_some]
      rfl
  | receiveFrame screen frame faces locked =>
      left
      obtain ⟨before, app, hprocess, _, hglobals, rfl⟩ :=
        eq_of_within (by rintro call ⟨⟩) hstep
      simp only [Installation.device, hprocess, Option.map_some, hglobals]
  | setCameraPreviewSize screen width height =>
      left
      obtain ⟨before, app, hprocess, _, hglobals, rfl⟩ :=
        eq_of_within (by rintro call ⟨⟩) hstep
      simp only [Installation.device, hprocess, Option.map_some, hglobals]
  | endProcess =>
      cases hstep
      exact Or.inr ⟨.endProcess, rfl⟩

end Below

/-! ## The models of the assets -/

section Models

variable {phone : Phone binary32} {writer : Platform}
  {predictor : ShapePredictor Binary32} {toys : ObjectDetector} {proto : Protobuf}
  {dlib : DlibRuntime Binary32} {installation next : Installation}

/-- The phone below is sound; a screen has a detector only when it has been
created, and has been created only in a library with the whole of its model. -/
structure Sound (phone : Phone binary32) (predictor : ShapePredictor Binary32)
    (toys : ObjectDetector) (installation : Installation) : Prop where
  device : installation.device.Sound phone predictor
  resumed : ∀ process, installation.process = some process →
    ∀ screen, process.resumed screen = true → process.created screen = true
  whole : ∀ process, installation.process = some process →
    ∀ screen, process.created screen = true →
      screen.ModelInstalled predictor toys process.app.globals

theorem sound_fresh : fresh.Sound phone predictor toys where
  device := NativeLib.sound_fresh
  resumed := by
    rintro process ⟨⟩
  whole := by
    rintro process ⟨⟩

/-- The library of a process is the one below. -/
theorem library_of_process {process : Process}
    (hprocess : installation.process = some process) :
    installation.device.library = process.app.globals := by
  simp only [Device.library, device, hprocess, Option.map_some, Option.getD_some]

/-- A change within the process that leaves the library and the created screens
alone keeps an installation sound. -/
theorem Sound.within (hsound : installation.Sound phone predictor toys)
    {before after : Process} (hprocess : installation.process = some before)
    (hglobals : after.app.globals = before.app.globals)
    (hcreated : after.created = before.created)
    (hresumed : ∀ screen, after.resumed screen = true →
      before.created screen = true) :
    Installation.Sound phone predictor toys
      { installation with process := some after } where
  device := by
    have hdevice := hsound.device
    simp only [Installation.device, hprocess, Option.map_some] at hdevice
    simp only [Installation.device, Option.map_some, hglobals]
    exact hdevice
  resumed := by
    rintro process ⟨⟩
    rw [hcreated]
    exact hresumed
  whole := by
    rintro process ⟨⟩ screen
    rw [hcreated, hglobals]
    exact hsound.whole before hprocess screen

/-- The screens of a process that is made anew if there is none. -/
theorem Sound.created_of_resumed
    (hsound : installation.Sound phone predictor toys) {screen : Screen}
    (hresumed : (installation.process.getD Process.new).resumed screen = true) :
    (installation.process.getD Process.new).created screen = true := by
  cases hprocess : installation.process with
  | none =>
      rw [hprocess] at hresumed
      cases hresumed
  | some process =>
      rw [hprocess] at hresumed
      exact hsound.resumed process hprocess screen hresumed

/-- Creating a screen never puts a part of a model behind a screen. -/
theorem modelInstalled_of_onCreate (hships : phone.Ships writer predictor)
    (hshipsToys : phone.ShipsToys writer toys)
    (hsound : installation.Sound phone predictor toys) {created : Screen}
    {script : List Utils.Outcome} {below : Device binary32}
    (hopen : phone.step installation.device (created.opening script) = some below)
    {globals : Globals Binary32} (hglobals : below.process = some globals)
    {width height : Int} {screen : Screen}
    (hcreated : ((installation.process.getD Process.new).create created width
      height globals).created screen = true) :
    screen.ModelInstalled predictor toys globals := by
  obtain ⟨_, hopens, hlandmarks, htoys⟩ := opensWithWholeModel_of_sound hships
    hshipsToys hsound.device (created.opening script)
  cases hopens.symm.trans hopen
  have hbefore : screen ≠ created →
      screen.ModelInstalled predictor toys installation.device.library := by
    intro hscreen
    rw [Process.create_created, Function.update_of_ne hscreen] at hcreated
    cases hprocess : installation.process with
    | none =>
        rw [hprocess] at hcreated
        cases hcreated
    | some process =>
        rw [hprocess] at hcreated
        rw [library_of_process hprocess]
        exact hsound.whole process hprocess screen hcreated
  -- A screen of the same kind has been opened now, one of the other kind before.
  cases created with
  | legoToyDetector =>
      have hkept : globals.sFaceLandmarksDetector =
          installation.device.library.sFaceLandmarksDetector :=
        kept_of_onCreate _ landmarks_of_prepareToys hopen hglobals
      cases screen with
      | legoToyDetector => exact (htoys script rfl).2 globals hglobals
      | cameraDetect | photoDetect => exact hkept.trans (hbefore (by decide))
  | cameraDetect | photoDetect =>
      have hkept : globals.sToyDetector =
          installation.device.library.sToyDetector :=
        kept_of_onCreate _ toys_of_prepareLandmarks hopen hglobals
      cases screen with
      | legoToyDetector => exact hkept.trans (hbefore (by decide))
      | cameraDetect | photoDetect =>
          exact (hlandmarks script rfl).2 globals hglobals

/-- Step lemma: no event breaks a sound installation. -/
theorem sound_step (hships : phone.Ships writer predictor)
    (htoys : phone.ShipsToys writer toys)
    (hsound : installation.Sound phone predictor toys)
    {event : InstallationEvent}
    (hstep : installation.step phone proto dlib event = some next) :
    next.Sound phone predictor toys := by
  have hdevice : next.device.Sound phone predictor := by
    rcases device_of_step hstep with hsame | ⟨below, hbelow⟩
    · rw [hsame]
      exact hsound.device
    · exact NativeLib.sound_step hships hsound.device hbelow
  cases event with
  | onCreate screen script width height =>
      obtain ⟨below, hopen, rfl⟩ := Option.map_eq_some_iff.mp hstep
      refine ⟨hdevice, ?_, ?_⟩
      · intro process hprocess other hresumed
        obtain ⟨globals, _, rfl⟩ := Option.map_eq_some_iff.mp hprocess
        by_cases hother : other = screen
        · subst hother
          exact Function.update_self _ _ _
        · rw [Process.create_resumed, Function.update_of_ne hother] at hresumed
          rw [Process.create_created, Function.update_of_ne hother]
          exact hsound.created_of_resumed hresumed
      · intro process hprocess other hcreated
        obtain ⟨globals, hglobals, rfl⟩ := Option.map_eq_some_iff.mp hprocess
        exact modelInstalled_of_onCreate hships htoys hsound hopen hglobals hcreated
  | onResume screen =>
      obtain ⟨before, after, hprocess, hcreated, hchange, rfl⟩ :=
        within_eq_some hstep
      cases hchange
      refine hsound.within hprocess rfl rfl ?_
      intro other hresumed
      by_cases hother : other = screen
      · rw [hother]
        exact hcreated
      · rw [Process.resume_resumed, Function.update_of_ne hother] at hresumed
        exact hsound.resumed before hprocess other hresumed
  | receiveFrame screen frame faces locked =>
      obtain ⟨before, app, hprocess, _, hglobals, rfl⟩ :=
        eq_of_within (by rintro call ⟨⟩) hstep
      exact hsound.within hprocess hglobals rfl (hsound.resumed before hprocess)
  | setCameraPreviewSize screen width height =>
      obtain ⟨before, app, hprocess, _, hglobals, rfl⟩ :=
        eq_of_within (by rintro call ⟨⟩) hstep
      exact hsound.within hprocess hglobals rfl (hsound.resumed before hprocess)
  | endProcess =>
      cases hstep
      refine ⟨hdevice, ?_, ?_⟩
      · rintro process ⟨⟩
      · rintro process ⟨⟩

/-- A library with the whole model or none is usable. -/
theorem usable_of_wholeOrNone (hwell : predictor.WellFormed)
    (hparts : predictor.numParts = 68) {globals : Globals Binary32}
    (hglobals : WholeOrNone predictor globals) : Usable globals := by
  rcases hglobals with hnew | hwhole
  · refine ⟨?_, ?_⟩
    · rw [hnew]
      exact usable_loaded.wellFormed
    · intro hready
      rw [unready_of_new hnew] at hready
      exact absurd hready Bool.false_ne_true
  · refine ⟨?_, fun _ => ?_⟩
    · rw [hwhole]
      exact hwell.map _
    · rw [hwhole, numParts_map]
      exact hparts

end Models

/-! ## Every frame -/

/-- Creating a screen is defined.  A frame on a screen with a detector is shown,
as long as the platform hands out its bitmap, and found with the model of the
asset; on the screens with landmarks its faces have 68 of them. -/
def FramesArrive (phone : Phone binary32) (predictor : ShapePredictor Binary32)
    (toys : ObjectDetector) (proto : Protobuf) (dlib : DlibRuntime Binary32)
    (installation : Installation) : InstallationEvent → Prop
  | .onCreate screen script width height =>
      ∃ next, installation.step phone proto dlib
        (.onCreate screen script width height) = some next
  | .receiveFrame screen frame faces locked =>
      ∀ process, installation.process = some process →
        process.resumed screen = true →
        process.app.Regular dlib (.receiveFrame screen frame faces locked) →
        ∃ shown,
          installation.step phone proto dlib
              (.receiveFrame screen frame faces locked) =
            some { installation with
              process := some { process with app := shown } } ∧
          process.app.Shown dlib screen frame faces locked shown ∧
          screen.ModelInstalled predictor toys process.app.globals ∧
          (screen ≠ .legoToyDetector →
            ∀ face ∈ (shown.overlay screen).mFaces, face.mLandmarks.length = 68)
  | _ => True

section Arrival

variable {phone : Phone binary32} {writer : Platform}
  {predictor : ShapePredictor Binary32} {toys : ObjectDetector}
  {std : DescendingSort} {scanner : FhogScanner} {geometry : ShapeGeometry Binary32}
  {frontalFaceDetector : ObjectDetector} {input : CodedInputStream}
  {runtime : Data.Messages.ProtobufRuntime} {installation : Installation}

theorem framesArrive_of_sound (hships : phone.Ships writer predictor)
    (htoys : phone.ShipsToys writer toys) (hwell : predictor.WellFormed)
    (hinput : input.Documented) (hruntime : runtime.Documented)
    (hsound : installation.Sound phone predictor toys)
    (event : InstallationEvent) :
    installation.FramesArrive phone predictor toys (wireProtobuf input runtime)
      (dlibAlgorithms std scanner geometry frontalFaceDetector) event := by
  cases event with
  | onCreate screen script width height =>
      obtain ⟨below, hopens, _⟩ := opensWithWholeModel_of_sound hships htoys
        hsound.device (screen.opening script)
      exact ⟨_, by rw [step, hopens]; rfl⟩
  | receiveFrame screen frame faces locked =>
      intro process hprocess hresumed hregular
      have hlibrary : WholeOrNone predictor process.app.globals := by
        rw [← library_of_process hprocess]
        exact hsound.device.library
      have husable : Usable process.app.globals :=
        usable_of_wholeOrNone hwell hships.numParts hlibrary
      obtain ⟨shown, hframe, hshown⟩ :=
        App.showsFrames_of_usable hinput hruntime husable hregular
      have hcreated := hsound.resumed process hprocess screen hresumed
      have hwhole := hsound.whole process hprocess screen hcreated
      refine ⟨shown, ?_, hshown, hwhole, ?_⟩
      · rw [step, within_of_allowed hprocess hresumed, hframe]
        rfl
      · intro hscreen
        have hlandmarks : process.app.globals.sFaceLandmarksDetector =
            predictor.map BinaryFloat.unsignZero := by
          cases screen with
          | legoToyDetector => exact absurd rfl hscreen
          | cameraDetect | photoDetect => exact hwhole
        apply hshown.landmarks hscreen
        rw [isFaceLandmarksDetectorReady, hlandmarks, numParts_map,
          hships.numParts]
        rfl
  | onResume screen => trivial
  | setCameraPreviewSize screen width height => trivial
  | endProcess => trivial

/-- What the installed models compute is defined. -/
structure ModelsDefined (std : DescendingSort) (scanner : FhogScanner)
    (geometry : ShapeGeometry Binary32) (predictor : ShapePredictor Binary32)
    (toys : ObjectDetector) : Prop where
  landmarks : ∀ img rect, ∃ parts,
    (predictor.map BinaryFloat.unsignZero).run geometry img rect = some parts ∧
      parts.length = predictor.numParts
  toys : ∀ img, ∃ dets, toys.settled.finalDets std scanner img = some dets ∧
    toys.settled.Reports scanner img dets

theorem modelsDefined (hwell : predictor.WellFormed) (htoys : toys.HasThresholds) :
    ModelsDefined std scanner geometry predictor toys where
  landmarks img rect := by
    rw [← numParts_map BinaryFloat.unsignZero predictor]
    exact ShapePredictor.exists_run (hwell.map _) img rect
  toys _ := ObjectDetector.reports_finalDets _ _ _ htoys.settled

end Arrival

/-- List the assets and copy both, the toys in one chunk and the landmarks in
two. -/
def copiesAll : List Utils.Outcome :=
  [.ok 0, .ok 0, .ok 0, .ok 1024, .ok 0, .ok 1024, .ok 0, .ok 0,
    .ok 0, .ok 0, .ok 1024, .ok 0, .ok 1024, .ok 0, .ok 1024, .ok 0, .ok 0]

/-- The first start dies in the copy of the toys; the second one gets through,
and a frame comes. -/
def secondStart : List InstallationEvent :=
  [.onCreate .cameraDetect [.ok 0, .ok 0, .ok 0] 320 240,
    .onCreate .cameraDetect copiesAll 320 240,
    .onResume .cameraDetect,
    .receiveFrame .cameraDetect App.greenFrame App.greenFaces
      fun _ => greenPixel.toBitmap]

-- The overlay behind that run holds one face, with its landmarks.
example :
    (run (step shippedPhone (wireProtobuf flatStream Data.Messages.plainRuntime)
      (dlibAlgorithms .stable blueScanner pixelGeometry oneFilter)) fresh
        secondStart).map (fun last =>
          last.process.map fun process =>
            (process.app.overlay .cameraDetect).mFaces.map fun face =>
              face.mLandmarks.length) = some (some [68]) := by
  decide +kernel

end Installation

end Detector
end ImportDlibDemo
