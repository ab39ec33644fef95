import ImportDlibDemo.Library.BinaryFloat
import Mathlib.Data.List.Basic

/-!
# dlib's detectors and their files

`dlib::object_detector` and `dlib::shape_predictor` as the native code holds
them, and how `deserialize` fills them from a file.  Deserialisation overwrites
the target field by field; a read that fails throws `serialization_error` and
leaves behind whatever it has overwritten so far.
-/

namespace ImportDlibDemo
namespace Dlib

open Library

/-- `float`. -/
abbrev CppFloat := BinaryFloat binary32

/-- `double`. -/
abbrev CppDouble := BinaryFloat binary64

/-- `dlib::point`. -/
structure Point where
  x : Int
  y : Int
  deriving DecidableEq, Repr

/-- `dlib::rectangle`, with inclusive sides. -/
structure Rectangle where
  left : Int
  top : Int
  right : Int
  bottom : Int
  deriving DecidableEq, Repr

/-- A `serialization_error` and the target as the failed read left it. -/
structure Broken (T : Type) where
  info : String
  item : T
  deriving DecidableEq, Repr

/-- What reading one field from a stream yields: its value, or an error with
the field as far as it was overwritten. -/
inductive FieldRead (T : Type)
  | read (field : T)
  | broken (left : T) (info : String)
  deriving DecidableEq, Repr

variable {F S T : Type}

namespace FieldRead

/-- `deserialize(item.field, in)`. -/
def into (result : FieldRead T) (store : S → T → S) (item : S) :
    Except (Broken S) S :=
  match result with
  | .read field => .ok (store item field)
  | .broken left info => .error ⟨info, store item left⟩

/-- The value, when the field can be read. -/
def value? : FieldRead T → Option T
  | .read field => some field
  | .broken _ _ => none

end FieldRead

/-! ## `dlib::object_detector` -/

/-- `dlib::array`. -/
structure DlibArray (T : Type) where
  maxSize : Nat
  items : List T
  deriving DecidableEq, Repr

/-- An array without memory. -/
def DlibArray.new {T : Type} : DlibArray T where
  maxSize := 0
  items := []

/-- A `dlib::array2d<float>` of features: its size and its cells, row by row. -/
structure FeatureArray2d where
  nr : Nat
  nc : Nat
  elements : List CppFloat
  deriving DecidableEq, Repr

/-- An array without cells. -/
def FeatureArray2d.new : FeatureArray2d where
  nr := 0
  nc := 0
  elements := []

/-- `dlib::scan_fhog_pyramid` with the default feature extractor. -/
structure ScanFhogPyramid where
  feats : DlibArray (DlibArray FeatureArray2d)
  cellSize : Int
  padding : Nat
  windowWidth : Nat
  windowHeight : Nat
  maxPyramidLevels : Nat
  minPyramidLayerWidth : Nat
  minPyramidLayerHeight : Nat
  nuclearNormRegularizationStrength : CppDouble
  deriving DecidableEq, Repr

/-- `init`. -/
def ScanFhogPyramid.new : ScanFhogPyramid where
  feats := DlibArray.new
  cellSize := 8
  padding := 1
  windowWidth := 64
  windowHeight := 64
  maxPyramidLevels := 1000
  minPyramidLayerWidth := 64
  minPyramidLayerHeight := 64
  nuclearNormRegularizationStrength := .zero false

/-- `dlib::test_box_overlap`. -/
structure TestBoxOverlap where
  iouThresh : CppDouble
  percentCoveredThresh : CppDouble
  deriving DecidableEq, Repr

/-- A default-constructed test. -/
def TestBoxOverlap.new : TestBoxOverlap where
  iouThresh := .ofRat (1 / 2)
  percentCoveredThresh := .ofRat 1

/-- `dlib::object_detector` over a `scan_fhog_pyramid`.  The filter banks are
functions of the weights and the scanner. -/
structure ObjectDetector where
  boxesOverlap : TestBoxOverlap
  w : List (List CppDouble)
  scanner : ScanFhogPyramid
  deriving DecidableEq, Repr

namespace ObjectDetector

/-- A default-constructed detector. -/
def new : ObjectDetector where
  boxesOverlap := TestBoxOverlap.new
  w := []
  scanner := ScanFhogPyramid.new

/-- `num_detectors()`. -/
def numDetectors (detector : ObjectDetector) : Nat :=
  detector.w.length

end ObjectDetector

/-! ## `dlib::shape_predictor` -/

/-- `impl::split_feature`. -/
structure SplitFeature (F : Type) where
  idx1 : Nat
  idx2 : Nat
  thresh : F
  deriving DecidableEq, Repr

/-- `impl::regression_tree`. -/
structure RegressionTree (F : Type) where
  splits : List (SplitFeature F)
  leafValues : List (List F)
  deriving DecidableEq, Repr

/-- `dlib::shape_predictor`. -/
structure ShapePredictor (F : Type) where
  initialShape : List F
  forests : List (List (RegressionTree F))
  anchorIdx : List (List Nat)
  deltas : List (List (F × F))
  deriving DecidableEq, Repr

section Map

variable {G : Type} (f : F → G)

/-- The split with its threshold changed by `f`. -/
def SplitFeature.map (split : SplitFeature F) : SplitFeature G where
  idx1 := split.idx1
  idx2 := split.idx2
  thresh := f split.thresh

/-- The tree with every `float` changed by `f`. -/
def RegressionTree.map (tree : RegressionTree F) : RegressionTree G where
  splits := tree.splits.map (SplitFeature.map f)
  leafValues := tree.leafValues.map (List.map f)

/-- The predictor with every `float` changed by `f`. -/
def ShapePredictor.map (predictor : ShapePredictor F) : ShapePredictor G where
  initialShape := predictor.initialShape.map f
  forests := predictor.forests.map (List.map (RegressionTree.map f))
  anchorIdx := predictor.anchorIdx
  deltas := predictor.deltas.map (List.map (Prod.map f f))

end Map

/-- The contents of a stream a shape predictor is read from. -/
structure ShapePredictorStream (F : Type) where
  version : FieldRead Int
  initialShape : FieldRead (List F)
  forests : FieldRead (List (List (RegressionTree F)))
  anchorIdx : FieldRead (List (List Nat))
  deltas : FieldRead (List (List (F × F)))
  deriving DecidableEq, Repr

namespace ShapePredictor

/-- A default-constructed predictor. -/
def new : ShapePredictor F where
  initialShape := []
  forests := []
  anchorIdx := []
  deltas := []

/-- `num_parts()`. -/
def numParts (predictor : ShapePredictor F) : Nat :=
  predictor.initialShape.length / 2

/-- `deserialize(shape_predictor&, std::istream&)`. -/
def deserialize (stream : ShapePredictorStream F) (item : ShapePredictor F) :
    Except (Broken (ShapePredictor F)) (ShapePredictor F) := do
  match stream.version with
  | .broken _ info => throw ⟨info, item⟩
  | .read version =>
      if version ≠ 1 then
        throw ⟨"Unexpected version found while deserializing " ++
          "dlib::shape_predictor.", item⟩
      let item ← stream.initialShape.into
        (fun item field => { item with initialShape := field }) item
      let item ← stream.forests.into
        (fun item field => { item with forests := field }) item
      let item ← stream.anchorIdx.into
        (fun item field => { item with anchorIdx := field }) item
      stream.deltas.into (fun item field => { item with deltas := field }) item

end ShapePredictor

/-- The predictor stored in a stream: version 1 and every field readable. -/
def ShapePredictorStream.predictor? (stream : ShapePredictorStream F) :
    Option (ShapePredictor F) := do
  guard (stream.version = .read 1)
  let initialShape ← stream.initialShape.value?
  let forests ← stream.forests.value?
  let anchorIdx ← stream.anchorIdx.value?
  let deltas ← stream.deltas.value?
  return { initialShape, forests, anchorIdx, deltas }

/-- Storing a field succeeds exactly when the field can be read. -/
theorem FieldRead.into_eq_ok_iff {result : FieldRead T} {store : S → T → S}
    {item stored : S} :
    result.into store item = .ok stored ↔
      ∃ field, result.value? = some field ∧ store item field = stored := by
  cases result with
  | read field => simp [FieldRead.into, FieldRead.value?]
  | broken left info => simp [FieldRead.into, FieldRead.value?]

private theorem bind_eq_ok_iff {E A B : Type} {x : Except E A}
    {f : A → Except E B} {result : B} :
    (x >>= f) = .ok result ↔ ∃ a, x = .ok a ∧ f a = .ok result := by
  cases x with
  | ok a => simp [bind, Except.bind]
  | error e => simp [bind, Except.bind]

/-- Deserialisation succeeds exactly on a stream that stores a predictor, and
then the target is that predictor whatever it was before. -/
theorem ShapePredictor.deserialize_eq_ok_iff {stream : ShapePredictorStream F}
    {item predictor : ShapePredictor F} :
    ShapePredictor.deserialize stream item = .ok predictor ↔
      stream.predictor? = some predictor := by
  unfold ShapePredictor.deserialize ShapePredictorStream.predictor? guard
  cases hread : stream.version with
  | broken left info =>
      simp [throw, throwThe, MonadExceptOf.throw]
  | read version =>
      by_cases hversion : version = 1
      · -- Every field is read in turn on both sides.
        simp [hversion, bind_eq_ok_iff, FieldRead.into_eq_ok_iff,
          Option.bind_eq_some_iff]
      · simp [hversion, throw, throwThe, MonadExceptOf.throw,
          bind_eq_ok_iff]

end Dlib
end ImportDlibDemo
