import ImportDlibDemo.Dlib.DetectorFile
import ImportDlibDemo.Dlib.PredictorFile
import ImportDlibDemo.NativeLib.LandmarksInstallation
import ImportDlibDemo.Utils.CopyAssetsRuns

/-!
# Which models can get into the library

`prepareFaceLandmarksDetector` and `prepareLegoToyDetector` on the files that
`copyAssets` has put into the files directory.  `deserialize` does not look behind
a model, so of the beginnings of a model file those with the whole model are
installed; any other beginning is refused, and the exception ends the process
(`prepareFromFile_beginning`, `prepareToysFromFile_beginning`).
-/

namespace ImportDlibDemo
namespace NativeLib

open Dlib
open Library
open Library.PrefixDecoder
open Utils

variable {format : FloatFormat}

/-- What a reading is to the entry point: a stream whose fields can be read, the
last one perhaps only in part. -/
def streamOf {F : Type} :
    Reading (Broken (ShapePredictor F)) (ShapePredictor F) →
      Option (ShapePredictorStream F)
  | .value item _ =>
      some
        { version := .read 1
          initialShape := .read item.initialShape
          forests := .read item.forests
          anchorIdx := .read item.anchorIdx
          deltas := .read item.deltas }
  | .failed broken =>
      some
        { version := .read 1
          initialShape := .read broken.item.initialShape
          forests := .read broken.item.forests
          anchorIdx := .read broken.item.anchorIdx
          deltas := .broken broken.item.deltas broken.info }
  | .undefined => none

/-- `prepareFaceLandmarksDetector` on the bytes of a file, or on a file that is
not there; `none` when reading the bytes has no meaning. -/
def prepareFromFile (platform : Platform)
    (oldFormat : OldFormat (BinaryFloat format)) (path : String)
    (contents : Option (List UInt8)) (globals : Globals (BinaryFloat format)) :
    Option (PrepareEnd (BinaryFloat format)) :=
  match contents with
  | none => some (prepareFaceLandmarksDetector ⟨path, none⟩ globals)
  | some bytes =>
      (streamOf (deserializePredictor platform oldFormat
          globals.sFaceLandmarksDetector bytes)).map
        fun stream => prepareFaceLandmarksDetector ⟨path, some stream⟩ globals

/-- Whatever the file holds, it is the entry point that goes on. -/
theorem file_of_prepareFromFile {platform : Platform}
    {oldFormat : OldFormat (BinaryFloat format)} {path : String}
    {contents : Option (List UInt8)} {globals : Globals (BinaryFloat format)}
    {result : PrepareEnd (BinaryFloat format)}
    (hprepare : prepareFromFile platform oldFormat path contents globals =
      some result) :
    ∃ file, result = prepareFaceLandmarksDetector file globals := by
  cases contents with
  | none => exact ⟨_, (Option.some.inj hprepare).symm⟩
  | some bytes =>
      obtain ⟨stream, _, hresult⟩ := Option.map_eq_some_iff.mp hprepare
      exact ⟨_, hresult.symm⟩

section Reading

variable {reader : Platform} {oldFormat : OldFormat (BinaryFloat format)}
  {path : String} {globals : Globals (BinaryFloat format)}

/-- A file that is read is installed, and its parts are counted afterwards. -/
theorem prepareFromFile_of_value {bytes rest : List UInt8}
    {predictor : ShapePredictor (BinaryFloat format)}
    (hread : deserializePredictor reader oldFormat
      globals.sFaceLandmarksDetector bytes = .value predictor rest) :
    prepareFromFile reader oldFormat path (some bytes) globals =
      some (.returned { globals with sFaceLandmarksDetector := predictor }
        (if predictor.numParts ≠ 68 then
          ["It's not a 68 landmarks detector!"]
        else [])) := by
  rw [prepareFromFile, hread]
  rfl

/-- A file that is refused ends the process. -/
theorem prepareFromFile_of_failed {bytes : List UInt8}
    {broken : Broken (ShapePredictor (BinaryFloat format))}
    (hread : deserializePredictor reader oldFormat
      globals.sFaceLandmarksDetector bytes = .failed broken) :
    prepareFromFile reader oldFormat path (some bytes) globals =
      some (.terminated { globals with sFaceLandmarksDetector := broken.item }
        broken.info) := by
  rw [prepareFromFile, hread]
  rfl

theorem numParts_map {F G : Type} (f : F → G) (predictor : ShapePredictor F) :
    (predictor.map f).numParts = predictor.numParts := by
  simp [ShapePredictor.numParts, ShapePredictor.map]

variable {writer : Platform} {predictor : ShapePredictor (BinaryFloat format)}

/-- Of the beginnings of a model file those with the whole model are installed; all
the others, and a missing file, end the process. -/
theorem prepareFromFile_beginning (hstored : Stored format)
    (hfits : predictor.Fits) {contents : Option (List UInt8)}
    {behind : List UInt8}
    (hbeginning : ∀ front, contents = some front →
      front <+: serializePredictor writer predictor ++ behind) :
    (HasWhole contents (serializePredictor writer predictor) ∧
      prepareFromFile reader oldFormat path contents globals =
        some (.returned
          { globals with
            sFaceLandmarksDetector := predictor.map BinaryFloat.unsignZero }
          (if predictor.numParts ≠ 68 then
            ["It's not a 68 landmarks detector!"]
          else []))) ∨
      (¬ HasWhole contents (serializePredictor writer predictor) ∧
        ∃ after what, prepareFromFile reader oldFormat path contents globals =
          some (.terminated after what)) := by
  have hfile := decodes_serializePredictor hstored oldFormat writer reader hfits
    globals.sFaceLandmarksDetector
  rcases hfile.beginning hbeginning with ⟨hwhole, hread⟩ | ⟨hcut, hrefused⟩
  · refine Or.inl ⟨hwhole, ?_⟩
    obtain ⟨rest, rfl⟩ := hwhole
    obtain ⟨_, hvalue⟩ := hread _ rfl
    rw [prepareFromFile_of_value hvalue, numParts_map]
  · refine Or.inr ⟨hcut, ?_⟩
    cases contents with
    | none => exact ⟨_, _, rfl⟩
    | some front =>
        obtain ⟨broken, hbroken⟩ := hrefused front rfl
        exact ⟨_, _, prepareFromFile_of_failed hbroken⟩

end Reading

/-! ## The toys -/

/-- How dlib reads the older formats of the numbers of a detector. -/
structure DetectorReading where
  oldFloat : OldFormat CppFloat
  oldDouble : OldFormat CppDouble

/-- What a reading is to the entry point. -/
def fieldOf {T : Type} : Reading (Broken T) T → Option (FieldRead T)
  | .value item _ => some (.read item)
  | .failed broken => some (.broken broken.item broken.info)
  | .undefined => none

/-- `prepareLegoToyDetector` on the bytes of a file, or on a file that is not
there; `none` when reading the bytes has no meaning. -/
def prepareToysFromFile {F : Type} (platform : Platform)
    (reading : DetectorReading) (path : String) (contents : Option (List UInt8))
    (globals : Globals F) : Option (PrepareEnd F) :=
  match contents with
  | none => some (prepareLegoToyDetector ⟨path, none⟩ globals)
  | some bytes =>
      (fieldOf (deserializeDetector platform reading.oldFloat reading.oldDouble
          globals.sToyDetector bytes)).map
        fun field => prepareLegoToyDetector ⟨path, some field⟩ globals

section Toys

variable {F : Type} {reader writer : Platform} {reading : DetectorReading}
  {path : String} {globals : Globals F} {contents : Option (List UInt8)}

/-- Whatever the file holds, it is the entry point that goes on. -/
theorem file_of_prepareToysFromFile {result : PrepareEnd F}
    (hprepare : prepareToysFromFile reader reading path contents globals =
      some result) :
    ∃ file, result = prepareLegoToyDetector file globals := by
  cases contents with
  | none => exact ⟨_, (Option.some.inj hprepare).symm⟩
  | some bytes =>
      obtain ⟨field, _, hresult⟩ := Option.map_eq_some_iff.mp hprepare
      exact ⟨_, hresult.symm⟩

/-- A file that is read is installed. -/
theorem prepareToysFromFile_of_value {bytes rest : List UInt8}
    {toys : ObjectDetector}
    (hread : deserializeDetector reader reading.oldFloat reading.oldDouble
      globals.sToyDetector bytes = .value toys rest) :
    prepareToysFromFile reader reading path (some bytes) globals =
      some (.returned { globals with sToyDetector := toys } []) := by
  rw [prepareToysFromFile, hread]
  rfl

/-- A file that is refused ends the process. -/
theorem prepareToysFromFile_of_failed {bytes : List UInt8}
    {broken : Broken ObjectDetector}
    (hread : deserializeDetector reader reading.oldFloat reading.oldDouble
      globals.sToyDetector bytes = .failed broken) :
    prepareToysFromFile reader reading path (some bytes) globals =
      some (.terminated { globals with sToyDetector := broken.item }
        broken.info) := by
  rw [prepareToysFromFile, hread]
  rfl

variable (reader reading path globals) in
/-- Of the beginnings of a file of toys those with the whole detector are
installed; all the others, and a missing file, end the process. -/
theorem prepareToysFromFile_beginning {toys : ObjectDetector} {dims : Nat}
    (hfits : toys.Fits dims) {bytes behind : List UInt8}
    (hbytes : serializeDetector writer toys = some bytes)
    (hbeginning : ∀ front, contents = some front → front <+: bytes ++ behind) :
    (HasWhole contents bytes ∧
      prepareToysFromFile reader reading path contents globals =
        some (.returned { globals with sToyDetector := toys.settled } [])) ∨
      (¬ HasWhole contents bytes ∧
        ∃ after what, prepareToysFromFile reader reading path contents globals =
          some (.terminated after what)) := by
  have hfile := decodes_serializeDetector writer reader reading.oldFloat
    reading.oldDouble hfits hbytes globals.sToyDetector
  rcases hfile.beginning hbeginning with ⟨hwhole, hread⟩ | ⟨hcut, hrefused⟩
  · refine Or.inl ⟨hwhole, ?_⟩
    obtain ⟨rest, rfl⟩ := hwhole
    obtain ⟨_, hvalue⟩ := hread _ rfl
    exact prepareToysFromFile_of_value hvalue
  · refine Or.inr ⟨hcut, ?_⟩
    cases contents with
    | none => exact ⟨_, _, rfl⟩
    | some front =>
        obtain ⟨broken, hbroken⟩ := hrefused front rfl
        exact ⟨_, _, prepareToysFromFile_of_failed hbroken⟩

end Toys

/-! ## Models among the assets -/

/-- A model of each kind among the assets.  Behind its detector the file of the toys
has four bytes, as that of the app. -/
def shippedAssets : Assets where
  names := [TOY_MODEL_DATA, MODEL_DATA]
  contents := fun name =>
    if name = TOY_MODEL_DATA then
      (serializeDetector .bits64 oneFilter).map (· ++ [1, 1, 1, 0])
    else if name = MODEL_DATA then some (serializePredictor .bits64 oneTree)
    else none

theorem shippedAssets_model : shippedAssets.contents MODEL_DATA =
    some (serializePredictor .bits64 oneTree) := by
  have hother : MODEL_DATA ≠ TOY_MODEL_DATA := by decide
  simp only [shippedAssets, if_neg hother, if_true]

theorem shippedAssets_toys : ∃ bytes,
    serializeDetector .bits64 oneFilter = some bytes ∧
      HasWhole (shippedAssets.contents TOY_MODEL_DATA) bytes := by
  refine ⟨_, serializeDetector_eq _ oneFilter_fits, [1, 1, 1, 0], ?_⟩
  simp only [shippedAssets, if_true, serializeDetector_eq _ oneFilter_fits,
    Option.map_some]

end NativeLib
end ImportDlibDemo
