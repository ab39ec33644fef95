import ImportDlibDemo.NativeLib.InstalledModel

/-!
# Opening the screens

Every detecting activity copies the assets in `onCreate` and then prepares its
model; the two with face landmarks do so unless the library is ready.  A run
opens screens in any order, with copies that fail or are cut off by the end of
the process, and the process may end in between.

* `opensWithWholeModel`: whatever happened before, a screen opens exactly when its
  copies come to an end and its whole model is there, or the landmarks are ready;
  it opens with the whole model of the asset;
* `neverOpensAgain`: once a run has left a part of the landmarks model next to the
  other file, every later opening of a screen with landmarks ends the process.

What lies behind a model in its file makes no difference.
-/

namespace ImportDlibDemo
namespace NativeLib

open Dlib
open Library
open Library.GuardedRun
open Library.PrefixDecoder
open Utils

/-- What a phone keeps from one start to the next: its platform and its assets,
where the files directory is, and how dlib reads what the model does not say. -/
structure Phone (format : FloatFormat) where
  platform : Platform
  assets : Assets
  externalFilesDir : String
  oldFormat : OldFormat (BinaryFloat format)
  toys : DetectorReading

/-- The files directory, and the globals of the library when a process has
loaded it. -/
structure Device (format : FloatFormat) where
  dir : FilesDir
  process : Option (Globals (BinaryFloat format))

/-- What happens: a screen is opened, with the outcomes of its copies, or the
process ends. -/
inductive DeviceEvent
  | openLandmarksScreen (script : List Outcome)
  | openToyScreen (script : List Outcome)
  | endProcess
  deriving DecidableEq, Repr

variable {format : FloatFormat}

/-- A fresh installation. -/
def Device.fresh : Device format where
  dir := FilesDir.empty
  process := none

/-- The library in this process, or in a new one. -/
def Device.library (device : Device format) : Globals (BinaryFloat format) :=
  device.process.getD Globals.loaded

/-- What is left of the process: an exception of either language ends it. -/
def PrepareEnd.process :
    PrepareEnd (BinaryFloat format) → Option (Globals (BinaryFloat format))
  | .returned globals [] => some globals
  | .returned _ (_ :: _) => none
  | .terminated _ _ => none

namespace Phone

variable (phone : Phone format)

/-- `Utils.getCopyedAssets`. -/
def getCopyedAssets (name : String) : String :=
  phone.externalFilesDir ++ "/" ++ name

/-- `isFaceLandmarksDetectorReady`, then `prepareFaceLandmarksDetector`. -/
def prepareLandmarks (dir : FilesDir) (globals : Globals (BinaryFloat format)) :
    Option (PrepareEnd (BinaryFloat format)) :=
  if isFaceLandmarksDetectorReady globals then some (.returned globals [])
  else
    prepareFromFile phone.platform phone.oldFormat
      (phone.getCopyedAssets MODEL_DATA) (dir MODEL_DATA) globals

/-- `prepareLegoToyDetector`. -/
def prepareToys (dir : FilesDir) (globals : Globals (BinaryFloat format)) :
    Option (PrepareEnd (BinaryFloat format)) :=
  prepareToysFromFile phone.platform phone.toys
    (phone.getCopyedAssets TOY_MODEL_DATA) (dir TOY_MODEL_DATA) globals

/-- `onCreate`: copy the assets, then prepare. -/
def onCreate
    (prepare : FilesDir → Globals (BinaryFloat format) →
      Option (PrepareEnd (BinaryFloat format)))
    (device : Device format) (script : List Outcome) : Option (Device format) :=
  match copyAssets phone.assets script device.dir with
  | .died dir => some { dir := dir, process := none }
  | .returned dir _ =>
      (prepare dir device.library).map fun result =>
        { dir := dir, process := result.process }

section OnCreate

variable {phone : Phone format}
  {prepare : FilesDir → Globals (BinaryFloat format) →
    Option (PrepareEnd (BinaryFloat format))}
  {device : Device format} {script : List Outcome} {dir : FilesDir}

theorem onCreate_of_died
    (hcopy : copyAssets phone.assets script device.dir = .died dir) :
    phone.onCreate prepare device script = some { dir := dir, process := none } := by
  rw [onCreate, hcopy]

theorem onCreate_of_returned {failed : Bool}
    (hcopy : copyAssets phone.assets script device.dir = .returned dir failed) :
    phone.onCreate prepare device script =
      (prepare dir device.library).map fun result =>
        { dir := dir, process := result.process } := by
  rw [onCreate, hcopy]

end OnCreate

/-- One event; `none` when the behaviour is undefined. -/
def step (device : Device format) : DeviceEvent → Option (Device format)
  | .openLandmarksScreen script =>
      phone.onCreate phone.prepareLandmarks device script
  | .openToyScreen script => phone.onCreate phone.prepareToys device script
  | .endProcess => some { device with process := none }

end Phone

/-! ## Whole models only -/

section Whole

variable {phone : Phone format} {writer : Platform}
  {predictor : ShapePredictor (BinaryFloat format)}

/-- The phone has this model among its assets: it fits into a file, and has 68
parts. -/
structure Phone.Ships (phone : Phone format) (writer : Platform)
    (predictor : ShapePredictor (BinaryFloat format)) : Prop where
  stored : Stored format
  fits : predictor.Fits
  numParts : predictor.numParts = 68
  asset : HasWhole (phone.assets.contents MODEL_DATA)
    (serializePredictor writer predictor)

/-- The file begins with the toys. -/
def HasToys (writer : Platform) (toys : ObjectDetector)
    (contents : Option Bytes) : Prop :=
  ∃ bytes, serializeDetector writer toys = some bytes ∧ HasWhole contents bytes

/-- The phone has these toys among its assets, and they fit into a file. -/
structure Phone.ShipsToys (phone : Phone format) (writer : Platform)
    (toys : ObjectDetector) : Prop where
  fits : ∃ dims, toys.Fits dims
  asset : HasToys writer toys (phone.assets.contents TOY_MODEL_DATA)

/-- The library has no landmarks model, or the whole one. -/
def WholeOrNone (predictor : ShapePredictor (BinaryFloat format))
    (globals : Globals (BinaryFloat format)) : Prop :=
  globals.sFaceLandmarksDetector = ShapePredictor.new ∨
    globals.sFaceLandmarksDetector = predictor.map BinaryFloat.unsignZero

/-- The files are beginnings of their assets, and the library has no part of a
model. -/
structure Device.Sound (phone : Phone format)
    (predictor : ShapePredictor (BinaryFloat format)) (device : Device format) :
    Prop where
  files : BeginningsOnly phone.assets device.dir
  library : WholeOrNone predictor device.library

/-- A screen opens exactly when its copies come to an end and `ready` holds of the
files behind them; then `installed` holds of the library. -/
def Phone.OpensWith (phone : Phone format) (device next : Device format)
    (script : List Outcome) (ready : FilesDir → Prop)
    (installed : Globals (BinaryFloat format) → Prop) : Prop :=
  (next.process ≠ none ↔
    ∃ dir failed, copyAssets phone.assets script device.dir = .returned dir failed ∧
      ready dir) ∧
  ∀ globals, next.process = some globals → installed globals

/-- Opening a screen is defined; one with landmarks opens when the library is
ready or the whole model is there, the one with the toys when all of them are
there, and each opens with the whole model of the asset. -/
def OpensWithWholeModel (phone : Phone format) (writer : Platform)
    (predictor : ShapePredictor (BinaryFloat format)) (toys : ObjectDetector)
    (device : Device format) (event : DeviceEvent) : Prop :=
  ∃ next, phone.step device event = some next ∧
    (∀ script, event = .openLandmarksScreen script →
      phone.OpensWith device next script
        (fun dir => isFaceLandmarksDetectorReady device.library = true ∨
          HasWhole (dir MODEL_DATA) (serializePredictor writer predictor))
        fun globals =>
          globals.sFaceLandmarksDetector = predictor.map BinaryFloat.unsignZero) ∧
    ∀ script, event = .openToyScreen script →
      phone.OpensWith device next script
        (fun dir => HasToys writer toys (dir TOY_MODEL_DATA))
        fun globals => globals.sToyDetector = toys.settled

theorem sound_fresh : Device.Sound phone predictor Device.fresh :=
  ⟨beginningsOnly_empty phone.assets, Or.inl rfl⟩

/-- Without a landmarks model the library is not ready. -/
theorem unready_of_new {globals : Globals (BinaryFloat format)}
    (hnew : globals.sFaceLandmarksDetector = ShapePredictor.new) :
    isFaceLandmarksDetectorReady globals = false := by
  rw [isFaceLandmarksDetectorReady, hnew]
  simp [ShapePredictor.numParts, ShapePredictor.new]

/-- Ready means the whole model. -/
theorem WholeOrNone.whole_of_ready {globals : Globals (BinaryFloat format)}
    (hglobals : WholeOrNone predictor globals)
    (hready : isFaceLandmarksDetectorReady globals = true) :
    globals.sFaceLandmarksDetector = predictor.map BinaryFloat.unsignZero := by
  rcases hglobals with hnew | hwhole
  · rw [unready_of_new hnew] at hready
    exact absurd hready Bool.false_ne_true
  · exact hwhole

/-- Preparing the landmarks is defined; the process goes on exactly when the
library was ready or the whole model is there, with the whole model. -/
theorem prepareLandmarks_ends (hships : phone.Ships writer predictor)
    {dir : FilesDir} (hdir : BeginningsOnly phone.assets dir)
    {globals : Globals (BinaryFloat format)}
    (hglobals : WholeOrNone predictor globals) :
    ∃ result, phone.prepareLandmarks dir globals = some result ∧
      (result.process ≠ none ↔ isFaceLandmarksDetectorReady globals = true ∨
        HasWhole (dir MODEL_DATA) (serializePredictor writer predictor)) ∧
      ∀ after, result.process = some after →
        after.sFaceLandmarksDetector = predictor.map BinaryFloat.unsignZero := by
  unfold Phone.prepareLandmarks
  by_cases hready : isFaceLandmarksDetectorReady globals = true
  · rw [if_pos hready]
    refine ⟨_, rfl, ⟨fun _ => Or.inl hready, fun _ => Option.some_ne_none _⟩, ?_⟩
    intro after hafter
    cases hafter
    exact hglobals.whole_of_ready hready
  · rw [if_neg hready]
    obtain ⟨behind, hasset⟩ := hships.asset
    rcases prepareFromFile_beginning hships.stored hships.fits
        (hdir.of_asset hasset) with
      ⟨hwhole, hprepare⟩ | ⟨hcut, after, what, hprepare⟩
    · rw [if_neg (not_not.mpr hships.numParts)] at hprepare
      refine ⟨_, hprepare,
        ⟨fun _ => Or.inr hwhole, fun _ => Option.some_ne_none _⟩, ?_⟩
      intro after hafter
      cases hafter
      rfl
    · refine ⟨_, hprepare, ⟨fun hlives => absurd rfl hlives, ?_⟩, ?_⟩
      · rintro (hagain | hwhole)
        · exact absurd hagain hready
        · exact absurd hwhole hcut
      · intro globals hglobals
        cases hglobals

/-- Preparing the toys is defined; the process goes on exactly when all of them
are there, with the toys of the asset. -/
theorem prepareToys_ends {toys : ObjectDetector}
    (htoys : phone.ShipsToys writer toys) {dir : FilesDir}
    (hdir : BeginningsOnly phone.assets dir)
    (globals : Globals (BinaryFloat format)) :
    ∃ result, phone.prepareToys dir globals = some result ∧
      (result.process ≠ none ↔ HasToys writer toys (dir TOY_MODEL_DATA)) ∧
      ∀ after, result.process = some after → after.sToyDetector = toys.settled := by
  obtain ⟨dims, hfits⟩ := htoys.fits
  obtain ⟨bytes, hbytes, behind, hasset⟩ := htoys.asset
  rcases prepareToysFromFile_beginning phone.platform phone.toys
      (phone.getCopyedAssets TOY_MODEL_DATA) globals hfits hbytes
      (hdir.of_asset hasset) with
    ⟨hwhole, hprepare⟩ | ⟨hcut, after, what, hprepare⟩
  · refine ⟨_, hprepare,
      ⟨fun _ => ⟨bytes, hbytes, hwhole⟩, fun _ => Option.some_ne_none _⟩, ?_⟩
    intro after hafter
    cases hafter
    rfl
  · refine ⟨_, hprepare, ⟨fun hlives => absurd rfl hlives, ?_⟩, ?_⟩
    · rintro ⟨found, hfound, hwhole⟩
      cases hfound.symm.trans hbytes
      exact absurd hwhole hcut
    · intro globals hglobals
      cases hglobals

/-- Preparing the toys leaves the landmarks alone. -/
theorem landmarks_of_prepareToys {dir : FilesDir}
    {globals after : Globals (BinaryFloat format)}
    {result : PrepareEnd (BinaryFloat format)}
    (hprepare : phone.prepareToys dir globals = some result)
    (hafter : result.process = some after) :
    after.sFaceLandmarksDetector = globals.sFaceLandmarksDetector := by
  obtain ⟨file, rfl⟩ := file_of_prepareToysFromFile hprepare
  unfold prepareLegoToyDetector at hafter
  split at hafter
  · cases hafter
  · cases hafter
  · cases hafter
    rfl

theorem toys_of_prepareFaceLandmarksDetector
    {file : ModelFile (ShapePredictorStream (BinaryFloat format))}
    {globals after : Globals (BinaryFloat format)}
    (hafter : (prepareFaceLandmarksDetector file globals).process = some after) :
    after.sToyDetector = globals.sToyDetector := by
  unfold prepareFaceLandmarksDetector at hafter
  split at hafter
  · cases hafter
  · split at hafter
    · cases hafter
    · split_ifs at hafter with hparts
      · cases hafter
      · cases hafter
        rfl

/-- Preparing the landmarks leaves the toys alone. -/
theorem toys_of_prepareLandmarks {dir : FilesDir}
    {globals after : Globals (BinaryFloat format)}
    {result : PrepareEnd (BinaryFloat format)}
    (hprepare : phone.prepareLandmarks dir globals = some result)
    (hafter : result.process = some after) :
    after.sToyDetector = globals.sToyDetector := by
  unfold Phone.prepareLandmarks at hprepare
  split at hprepare
  · cases hprepare
    cases hafter
    rfl
  · obtain ⟨file, rfl⟩ := file_of_prepareFromFile hprepare
    exact toys_of_prepareFaceLandmarksDetector hafter

/-- A new process has no landmarks model. -/
theorem wholeOrNone_loaded :
    WholeOrNone predictor (Globals.loaded (F := BinaryFloat format)) :=
  Or.inl rfl

theorem Device.Sound.copied {device : Device format}
    (hdevice : device.Sound phone predictor) (script : List Outcome) :
    BeginningsOnly phone.assets (copyAssets phone.assets script device.dir).dir :=
  beginningsOnly_step hdevice.files rfl

/-- `onCreate` keeps a device sound when what it prepares keeps the library
so. -/
theorem sound_onCreate
    {prepare : FilesDir → Globals (BinaryFloat format) →
      Option (PrepareEnd (BinaryFloat format))}
    (hprepare : ∀ dir globals result after, BeginningsOnly phone.assets dir →
      WholeOrNone predictor globals → prepare dir globals = some result →
      result.process = some after → WholeOrNone predictor after)
    {device next : Device format} {script : List Outcome}
    (hdevice : device.Sound phone predictor)
    (hopen : phone.onCreate prepare device script = some next) :
    next.Sound phone predictor := by
  have hcopied := hdevice.copied script
  cases hcopy : copyAssets phone.assets script device.dir with
  | died dir =>
      rw [hcopy] at hcopied
      rw [Phone.onCreate_of_died hcopy] at hopen
      cases hopen
      exact ⟨hcopied, wholeOrNone_loaded⟩
  | returned dir failed =>
      rw [hcopy] at hcopied
      rw [Phone.onCreate_of_returned hcopy] at hopen
      obtain ⟨result, hresult, rfl⟩ := Option.map_eq_some_iff.mp hopen
      refine ⟨hcopied, ?_⟩
      cases hprocess : result.process with
      | none =>
          rw [Device.library, Option.getD_none]
          exact wholeOrNone_loaded
      | some after =>
          rw [Device.library, Option.getD_some]
          exact hprepare dir device.library result after hcopied
            hdevice.library hresult hprocess

/-- What preparing leaves alone, opening the screen does. -/
theorem kept_of_onCreate {β : Type} (kept : Globals (BinaryFloat format) → β)
    {prepare : FilesDir → Globals (BinaryFloat format) →
      Option (PrepareEnd (BinaryFloat format))}
    (hprepare : ∀ {dir globals result after}, prepare dir globals = some result →
      result.process = some after → kept after = kept globals)
    {device next : Device format} {script : List Outcome}
    (hopen : phone.onCreate prepare device script = some next)
    {after : Globals (BinaryFloat format)} (hafter : next.process = some after) :
    kept after = kept device.library := by
  cases hcopy : copyAssets phone.assets script device.dir with
  | died dir =>
      rw [Phone.onCreate_of_died hcopy] at hopen
      cases hopen
      cases hafter
  | returned dir failed =>
      rw [Phone.onCreate_of_returned hcopy] at hopen
      obtain ⟨result, hresult, rfl⟩ := Option.map_eq_some_iff.mp hopen
      exact hprepare hresult hafter

/-- Step lemma: no event breaks a sound device. -/
theorem sound_step (hships : phone.Ships writer predictor)
    {device next : Device format} {event : DeviceEvent}
    (hdevice : device.Sound phone predictor)
    (hstep : phone.step device event = some next) :
    next.Sound phone predictor := by
  cases event with
  | openLandmarksScreen script =>
      refine sound_onCreate ?_ hdevice hstep
      intro dir globals result after hdir hglobals hresult hafter
      obtain ⟨_, hends, _, hwhole⟩ := prepareLandmarks_ends hships hdir hglobals
      cases hends.symm.trans hresult
      exact Or.inr (hwhole after hafter)
  | openToyScreen script =>
      refine sound_onCreate ?_ hdevice hstep
      intro dir globals result after _ hglobals hresult hafter
      rw [WholeOrNone, landmarks_of_prepareToys hresult hafter]
      exact hglobals
  | endProcess =>
      cases hstep
      exact ⟨hdevice.files, wholeOrNone_loaded⟩

/-- A screen opens as what it prepares ends. -/
theorem opensWith_of_prepare
    {prepare : FilesDir → Globals (BinaryFloat format) →
      Option (PrepareEnd (BinaryFloat format))}
    {ready : FilesDir → Prop} {installed : Globals (BinaryFloat format) → Prop}
    {device : Device format} (hdevice : device.Sound phone predictor)
    (hprepare : ∀ dir, BeginningsOnly phone.assets dir →
      ∃ result, prepare dir device.library = some result ∧
        (result.process ≠ none ↔ ready dir) ∧
        ∀ after, result.process = some after → installed after)
    (script : List Outcome) :
    ∃ next, phone.onCreate prepare device script = some next ∧
      phone.OpensWith device next script ready installed := by
  have hcopied := hdevice.copied script
  unfold Phone.OpensWith
  cases hcopy : copyAssets phone.assets script device.dir with
  | died dir =>
      refine ⟨_, Phone.onCreate_of_died hcopy,
        ⟨fun hlives => absurd rfl hlives, ?_⟩, ?_⟩
      · rintro ⟨_, _, ⟨⟩, _⟩
      · rintro globals ⟨⟩
  | returned dir failed =>
      rw [hcopy, RunEnd.dir] at hcopied
      obtain ⟨result, hends, hlives, hinstalled⟩ := hprepare dir hcopied
      have hopen : phone.onCreate prepare device script =
          some { dir := dir, process := result.process } := by
        rw [Phone.onCreate_of_returned hcopy, hends, Option.map_some]
      refine ⟨_, hopen,
        ⟨fun halive => ⟨dir, failed, rfl, hlives.mp halive⟩, ?_⟩, hinstalled⟩
      rintro ⟨_, _, ⟨⟩, hready⟩
      exact hlives.mpr hready

/-- Every event is defined on a sound device, and a screen opens with its whole
model. -/
theorem opensWithWholeModel_of_sound (hships : phone.Ships writer predictor)
    {toys : ObjectDetector} (htoys : phone.ShipsToys writer toys)
    {device : Device format} (hdevice : device.Sound phone predictor)
    (event : DeviceEvent) :
    OpensWithWholeModel phone writer predictor toys device event := by
  cases event with
  | openLandmarksScreen script =>
      obtain ⟨next, hopen, hwith⟩ := opensWith_of_prepare hdevice
        (fun dir hdir => prepareLandmarks_ends hships hdir hdevice.library) script
      refine ⟨next, hopen, ?_, ?_⟩
      · rintro _ ⟨⟩
        exact hwith
      · rintro _ ⟨⟩
  | openToyScreen script =>
      obtain ⟨next, hopen, hwith⟩ := opensWith_of_prepare hdevice
        (fun dir hdir => prepareToys_ends htoys hdir device.library) script
      refine ⟨next, hopen, ?_, ?_⟩
      · rintro _ ⟨⟩
      · rintro _ ⟨⟩
        exact hwith
  | endProcess =>
      refine ⟨_, rfl, ?_, ?_⟩
      · rintro _ ⟨⟩
      · rintro _ ⟨⟩

/-- From a fresh installation every event of every run is defined, and the
screens open with their whole models or not at all. -/
theorem opensWithWholeModel (hships : phone.Ships writer predictor)
    {toys : ObjectDetector} (htoys : phone.ShipsToys writer toys)
    (events : List DeviceEvent) :
    EachStep phone.step (OpensWithWholeModel phone writer predictor toys)
      Device.fresh events := by
  apply Always.eachStep fun device event hdevice =>
    opensWithWholeModel_of_sound hships htoys hdevice event
  exact always_of_step (fun _ _ _ => sound_step hships) sound_fresh events

end Whole

/-- A phone with the models of the assets. -/
def shippedPhone : Phone binary32 where
  platform := .bits32
  assets := shippedAssets
  externalFilesDir := "/files"
  oldFormat := fun item _ => .failed ⟨"", item⟩
  toys :=
    { oldFloat := fun item _ => .failed ⟨"", item⟩
      oldDouble := fun item _ => .failed ⟨"", item⟩ }

theorem shippedPhone_ships : shippedPhone.Ships .bits64 oneTree where
  stored := stored_binary32
  fits := oneTree_fits
  numParts := oneTree_numParts
  asset := ⟨[], by rw [List.append_nil]; exact shippedAssets_model⟩

theorem shippedPhone_shipsToys : shippedPhone.ShipsToys .bits64 oneFilter where
  fits := ⟨31, oneFilter_fits⟩
  asset := shippedAssets_toys

/-- The copy of the landmarks dies; then the toys are opened. -/
theorem shipped_opensWithWholeModel :
    EachStep shippedPhone.step
      (OpensWithWholeModel shippedPhone .bits64 oneTree oneFilter) Device.fresh
      [.openLandmarksScreen diesInSecondModel, .openToyScreen []] :=
  opensWithWholeModel shippedPhone_ships shippedPhone_shipsToys _

/-! ## Stuck devices -/

section Stuck

variable {phone : Phone format} {writer : Platform}
  {predictor : ShapePredictor (BinaryFloat format)}

/-- Less than the model lies next to the other file, and the library is not
ready. -/
structure Device.Stuck (phone : Phone format) (writer : Platform)
    (predictor : ShapePredictor (BinaryFloat format)) (device : Device format) :
    Prop where
  sound : device.Sound phone predictor
  models : ModelsExist device.dir
  cut : ¬ HasWhole (device.dir MODEL_DATA) (serializePredictor writer predictor)
  unready : isFaceLandmarksDetectorReady device.library = false

/-- Opening a screen with landmarks ends the process. -/
def LandmarksDie (phone : Phone format) (device : Device format)
    (event : DeviceEvent) : Prop :=
  ∀ script, event = .openLandmarksScreen script →
    ∃ next, phone.step device event = some next ∧ next.process = none

/-- Only the landmarks decide whether the library is ready. -/
theorem ready_congr {globals after : Globals (BinaryFloat format)}
    (hsame : after.sFaceLandmarksDetector = globals.sFaceLandmarksDetector) :
    isFaceLandmarksDetectorReady after = isFaceLandmarksDetectorReady globals := by
  rw [isFaceLandmarksDetectorReady, hsame]
  rfl

/-- Opening a screen on a device with both files leaves the files alone. -/
theorem dir_of_onCreate
    {prepare : FilesDir → Globals (BinaryFloat format) →
      Option (PrepareEnd (BinaryFloat format))}
    {device next : Device format} (hmodels : ModelsExist device.dir)
    {script : List Outcome}
    (hopen : phone.onCreate prepare device script = some next) :
    next.dir = device.dir ∧ ∃ result,
      prepare device.dir device.library = some result ∧
        next.process = result.process := by
  have hskip := copyAssets_skips hmodels phone.assets script
  rw [Phone.onCreate_of_returned hskip] at hopen
  obtain ⟨result, hresult, rfl⟩ := Option.map_eq_some_iff.mp hopen
  exact ⟨rfl, result, hresult, rfl⟩

theorem landmarksDie_of_stuck (hships : phone.Ships writer predictor)
    {device : Device format} (hstuck : device.Stuck phone writer predictor)
    (event : DeviceEvent) : LandmarksDie phone device event := by
  rintro script rfl
  obtain ⟨next, hopen, hlives, _⟩ := opensWith_of_prepare hstuck.sound
    (fun dir hdir => prepareLandmarks_ends hships hdir hstuck.sound.library) script
  refine ⟨next, hopen, ?_⟩
  by_contra halive
  obtain ⟨dir, failed, hcopy, hready⟩ := hlives.mp halive
  rw [copyAssets_skips hstuck.models] at hcopy
  cases hcopy
  rcases hready with hready | hwhole
  · rw [hstuck.unready] at hready
    exact Bool.false_ne_true hready
  · exact hstuck.cut hwhole

/-- A new process is not ready. -/
theorem unready_of_none {device : Device format} (hprocess : device.process = none) :
    isFaceLandmarksDetectorReady device.library = false := by
  rw [Device.library, hprocess]
  exact unready_of_new rfl

/-- Step lemma: no event gets a stuck device going. -/
theorem stuck_step (hships : phone.Ships writer predictor)
    {device next : Device format} {event : DeviceEvent}
    (hstuck : device.Stuck phone writer predictor)
    (hstep : phone.step device event = some next) :
    next.Stuck phone writer predictor := by
  have hsound := sound_step hships hstuck.sound hstep
  have hkept : next.dir = device.dir ∧
      isFaceLandmarksDetectorReady next.library = false := by
    cases event with
    | openLandmarksScreen script =>
        obtain ⟨_, hopen, hdies⟩ := landmarksDie_of_stuck hships hstuck _ script rfl
        cases hopen.symm.trans hstep
        exact ⟨(dir_of_onCreate hstuck.models hstep).1, unready_of_none hdies⟩
    | openToyScreen script =>
        obtain ⟨hdir, result, hresult, hprocess⟩ :=
          dir_of_onCreate hstuck.models hstep
        refine ⟨hdir, ?_⟩
        cases halive : next.process with
        | none => exact unready_of_none halive
        | some after =>
            have hsame := landmarks_of_prepareToys hresult
              (hprocess.symm.trans halive)
            rw [Device.library, halive, Option.getD_some, ready_congr hsame]
            exact hstuck.unready
    | endProcess =>
        cases hstep
        exact ⟨rfl, unready_of_none rfl⟩
  exact
    { sound := hsound
      models := hkept.1 ▸ hstuck.models
      cut := hkept.1 ▸ hstuck.cut
      unready := hkept.2 }

/-- Once a run has left a process without a landmarks model, and less than the
model next to the other file, every later opening of a screen with landmarks ends
the process. -/
theorem neverOpensAgain (hships : phone.Ships writer predictor)
    {events : List DeviceEvent} {device : Device format}
    (hrun : run phone.step Device.fresh events = some device)
    (hmodels : ModelsExist device.dir)
    (hcut : ¬ HasWhole (device.dir MODEL_DATA)
      (serializePredictor writer predictor))
    (hunready : isFaceLandmarksDetectorReady device.library = false)
    (later : List DeviceEvent) :
    EachStep phone.step (LandmarksDie phone) device later := by
  have hsound : Always phone.step (Device.Sound phone predictor) Device.fresh
      events :=
    always_of_step (fun _ _ _ => sound_step hships) sound_fresh events
  have hstuck : device.Stuck phone writer predictor :=
    ⟨hsound.last hrun, hmodels, hcut, hunready⟩
  apply Always.eachStep
    fun device event hdevice => landmarksDie_of_stuck hships hdevice event
  exact always_of_step (fun _ _ _ => stuck_step hships) hstuck later

end Stuck

theorem shippedCopy_dies :
    copyAssets shippedAssets diesInSecondModel FilesDir.empty =
      .died (copyAssets shippedAssets diesInSecondModel FilesDir.empty).dir := by
  cases hcopy : copyAssets shippedAssets diesInSecondModel FilesDir.empty with
  | died left => rfl
  | returned left failed =>
      have hdies : (copyAssets shippedAssets diesInSecondModel
          FilesDir.empty).alive = false := by decide +kernel
      rw [hcopy] at hdies
      cases hdies

/-- The process died before the first byte of the landmarks model, so the screen
never opens. -/
theorem shipped_neverOpensAgain :
    let dir := (copyAssets shippedAssets diesInSecondModel FilesDir.empty).dir
    EachStep shippedPhone.step (LandmarksDie shippedPhone)
      { dir := dir, process := none }
      [.openLandmarksScreen [], .openToyScreen [], .openLandmarksScreen []] := by
  intro dir
  have hcut : ¬ HasWhole (dir MODEL_DATA) (serializePredictor .bits64 oneTree) := by
    have hempty : dir MODEL_DATA = some [] := by decide +kernel
    rw [hempty]
    rintro ⟨behind, hsame⟩
    have hlength := congrArg List.length (Option.some.inj hsame)
    rw [List.length_append] at hlength
    have hsome : 0 < (serializePredictor .bits64 oneTree).length := by
      decide +kernel
    rw [List.length_nil] at hlength
    omega
  have hopen : shippedPhone.step Device.fresh
      (.openLandmarksScreen diesInSecondModel) =
        some { dir := dir, process := none } :=
    Phone.onCreate_of_died shippedCopy_dies
  have hrun : run shippedPhone.step Device.fresh
      [.openLandmarksScreen diesInSecondModel] =
        some { dir := dir, process := none } := by
    rw [run, hopen]
    rfl
  exact neverOpensAgain shippedPhone_ships hrun (by decide +kernel) hcut
    (unready_of_none rfl) _

end NativeLib
end ImportDlibDemo
