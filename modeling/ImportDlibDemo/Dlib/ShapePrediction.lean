import ImportDlibDemo.Dlib.Array2d
import ImportDlibDemo.Dlib.Models
import ImportDlibDemo.Dlib.Rectangles
import ImportDlibDemo.Library.BinaryFloat
import ImportDlibDemo.Library.ListLoops

/-!
# How `dlib::shape_predictor` places the parts of a shape

A cascade of forests moves an initial shape, step by step, towards the image.
Each tree compares pixels that are found relative to the current shape and adds
the vector of the leaf it ends at.

In a release build nothing checks an index, and a matrix of another size takes
the place of the one it is added to.  A read past the end of a vector is `none`
here: the behaviour is undefined then.  The transforms are the argument
`ShapeGeometry`, the arithmetic is the class `ShapeFloat`.
-/

namespace ImportDlibDemo
namespace Dlib

open Library.ListLoops

/-- The `float` operations of the shape predictor. -/
class ShapeFloat (F : Type) where
  ofUChar : Nat → F
  add : F → F → F
  sub : F → F → F
  gt : F → F → Bool

/-- Exact arithmetic in the place of `float`, to evaluate the model with. -/
instance : ShapeFloat ℚ where
  ofUChar := fun value => value
  add := fun a b => a + b
  sub := fun a b => a - b
  gt := fun a b => b < a

/-- Floating-point arithmetic. -/
instance {format : Library.FloatFormat} :
    ShapeFloat (Library.BinaryFloat format) where
  ofUChar := fun value => Library.BinaryFloat.ofInt value
  add := Library.BinaryFloat.add
  sub := Library.BinaryFloat.sub
  gt := Library.BinaryFloat.gt

/-- The transforms between shapes and into the image: the matrix of
`find_similarity_transform` applied to a vector, and `unnormalizing_tform` of a
rectangle, rounded to a pixel. -/
structure ShapeGeometry (F : Type) where
  similarity : List (F × F) → List (F × F) → F × F → F × F
  unnormalize : Rectangle → F × F → Point

/-- `get_rect` of an image. -/
def getRect {T : Type} (img : Array2d T) : Rectangle where
  left := 0
  top := 0
  right := img.nc - 1
  bottom := img.nr - 1

/-- `get_pixel_intensity` of an `rgb_pixel`. -/
def getPixelIntensity (pixel : RgbPixel) : Nat :=
  (pixel.red.toNat + pixel.green.toNat + pixel.blue.toNat) / 3

/-- `impl::left_child`. -/
def leftChild (idx : Nat) : Nat := 2 * idx + 1

/-- `impl::right_child`. -/
def rightChild (idx : Nat) : Nat := 2 * idx + 2

variable {F : Type}

/-- `impl::location`. -/
def location (shape : List F) (idx : Nat) : Option (F × F) := do
  let x ← shape[idx * 2]?
  let y ← shape[idx * 2 + 1]?
  return (x, y)

/-- `impl::find_tform_between_shapes`, as the matrix that turns a vector. -/
def findTformBetweenShapes (geometry : ShapeGeometry F)
    (fromShape toShape : List F) : Option (F × F → F × F) :=
  let num := fromShape.length / 2
  if num = 1 then some id
  else do
    let fromPoints ← (List.range num).mapM (location fromShape)
    let toPoints ← (List.range num).mapM (location toShape)
    return geometry.similarity fromPoints toPoints

variable [ShapeFloat F]

open ShapeFloat

/-- `impl::extract_feature_pixel_values`. -/
def extractFeaturePixelValues (geometry : ShapeGeometry F)
    (img : Array2d RgbPixel) (rect : Rectangle)
    (currentShape referenceShape : List F) (anchorIdx : List Nat)
    (deltas : List (F × F)) : Option (List F) := do
  let tform ← findTformBetweenShapes geometry referenceShape currentShape
  let area := getRect img
  deltas.zipIdx.mapM fun (delta, i) => do
    let anchor ← anchorIdx[i]?
    let base ← location currentShape anchor
    let turned := tform delta
    let p := geometry.unnormalize rect
      (add turned.1 base.1, add turned.2 base.2)
    if area.contains p then
      return ofUChar (getPixelIntensity (img.cell p.y.toNat p.x.toNat))
    else return ofUChar 0

namespace RegressionTree

/-- The loop of `operator()`: from node `i` to the index past the inner nodes at
which it stops. -/
def walk (tree : RegressionTree F) (featurePixelValues : List F) (i : Nat) :
    Option Nat :=
  if h : i < tree.splits.length then do
    let split := tree.splits[i]
    let a ← featurePixelValues[split.idx1]?
    let b ← featurePixelValues[split.idx2]?
    if gt (sub a b) split.thresh then
      tree.walk featurePixelValues (leftChild i)
    else tree.walk featurePixelValues (rightChild i)
  else some i
termination_by tree.splits.length - i
decreasing_by
  all_goals
    simp only [leftChild, rightChild]
    omega

/-- `operator()`: the vector at the leaf the walk from the root ends at. -/
def eval (tree : RegressionTree F) (featurePixelValues : List F) :
    Option (List F) := do
  let i ← tree.walk featurePixelValues 0
  tree.leafValues[i - tree.splits.length]?

end RegressionTree

/-- `matrix::operator+=` on column vectors. -/
def addAssign (shape leaf : List F) : List F :=
  if shape.length = leaf.length then List.zipWith add shape leaf
  else leaf

namespace ShapePredictor

/-- One level of the cascade: all its trees see the pixels at the places the
shape before the level gives them. -/
def runCascade (geometry : ShapeGeometry F) (predictor : ShapePredictor F)
    (img : Array2d RgbPixel) (rect : Rectangle) (currentShape : List F)
    (level : List (RegressionTree F) × Nat) : Option (List F) := do
  let (forest, iter) := level
  let anchorIdx ← predictor.anchorIdx[iter]?
  let deltas ← predictor.deltas[iter]?
  let featurePixelValues ← extractFeaturePixelValues geometry img rect
    currentShape predictor.initialShape anchorIdx deltas
  forest.foldlM
    (fun shape tree => (tree.eval featurePixelValues).map (addAssign shape))
    currentShape

/-- `operator()`: the parts found in a rectangle of an image. -/
def run (geometry : ShapeGeometry F) (predictor : ShapePredictor F)
    (img : Array2d RgbPixel) (rect : Rectangle) : Option (List Point) := do
  let shape ← predictor.forests.zipIdx.foldlM
    (predictor.runCascade geometry img rect) predictor.initialShape
  (List.range (shape.length / 2)).mapM fun i => do
    let part ← location shape i
    return geometry.unnormalize rect part

end ShapePredictor

/-! ## Well-formed predictors -/

/-- A tree for this many features whose leaves have this size: every split
compares two of the features, and there is one leaf more than there are splits.
The levels of the tree need not be full. -/
structure RegressionTree.WellFormed (tree : RegressionTree F)
    (features size : Nat) : Prop where
  splits : ∀ split ∈ tree.splits,
    split.idx1 < features ∧ split.idx2 < features
  leaves : tree.leafValues.length = tree.splits.length + 1
  sizes : ∀ leaf ∈ tree.leafValues, leaf.length = size

/-- The vectors of a predictor fit together: every level has its pixels, every
pixel is relative to a part, and the trees are made for these pixels and for the
initial shape. -/
structure ShapePredictor.WellFormed (predictor : ShapePredictor F) : Prop where
  anchors : predictor.anchorIdx.length = predictor.forests.length
  deltas : predictor.deltas.length = predictor.forests.length
  encoded : ∀ (iter : Nat) anchorIdx deltas,
    predictor.anchorIdx[iter]? = some anchorIdx →
      predictor.deltas[iter]? = some deltas → anchorIdx.length = deltas.length
  anchored : ∀ anchorIdx ∈ predictor.anchorIdx, ∀ anchor ∈ anchorIdx,
    anchor < predictor.numParts
  trees : ∀ (iter : Nat) forest deltas,
    predictor.forests[iter]? = some forest →
      predictor.deltas[iter]? = some deltas → ∀ tree ∈ forest,
        tree.WellFormed deltas.length predictor.initialShape.length

omit [ShapeFloat F] in
/-- With one level only that level has to fit together. -/
theorem ShapePredictor.wellFormed_of_oneLevel {initialShape : List F}
    {forest : List (RegressionTree F)} {anchorIdx : List Nat}
    {deltas : List (F × F)} (hencoded : anchorIdx.length = deltas.length)
    (hanchored : ∀ anchor ∈ anchorIdx, anchor < initialShape.length / 2)
    (htrees : ∀ tree ∈ forest,
      tree.WellFormed deltas.length initialShape.length) :
    ShapePredictor.WellFormed
      { initialShape, forests := [forest], anchorIdx := [anchorIdx]
        deltas := [deltas] } where
  anchors := rfl
  deltas := rfl
  encoded := by
    rintro (_ | iter) _ _ ⟨⟩ ⟨⟩
    exact hencoded
  anchored := by
    intro anchors hanchors
    obtain rfl := List.mem_singleton.mp hanchors
    exact hanchored
  trees := by
    rintro (_ | iter) _ _ ⟨⟩ ⟨⟩
    exact htrees

omit [ShapeFloat F] in
theorem RegressionTree.WellFormed.map {G : Type} {tree : RegressionTree F}
    {features size : Nat} (htree : tree.WellFormed features size) (f : F → G) :
    (tree.map f).WellFormed features size := by
  refine ⟨?_, ?_, ?_⟩
  · intro split hsplit
    obtain ⟨original, horiginal, rfl⟩ := List.mem_map.mp hsplit
    exact htree.splits original horiginal
  · simp only [RegressionTree.map, List.length_map]
    exact htree.leaves
  · intro leaf hleaf
    obtain ⟨original, horiginal, rfl⟩ := List.mem_map.mp hleaf
    rw [List.length_map]
    exact htree.sizes original horiginal

omit [ShapeFloat F] in
/-- How the vectors fit together does not depend on the numbers in them. -/
theorem ShapePredictor.WellFormed.map {G : Type} {predictor : ShapePredictor F}
    (hpredictor : predictor.WellFormed) (f : F → G) :
    (predictor.map f).WellFormed := by
  refine ⟨?_, ?_, ?_, ?_, ?_⟩
  · simp only [ShapePredictor.map, List.length_map]
    exact hpredictor.anchors
  · simp only [ShapePredictor.map, List.length_map]
    exact hpredictor.deltas
  · intro iter anchorIdx deltas hanchors hdeltas
    simp only [ShapePredictor.map, List.getElem?_map, Option.map_eq_some_iff]
      at hanchors hdeltas
    obtain ⟨original, horiginal, rfl⟩ := hdeltas
    rw [List.length_map]
    exact hpredictor.encoded iter _ _ hanchors horiginal
  · intro anchorIdx hanchorIdx anchor hanchor
    have hless := hpredictor.anchored anchorIdx hanchorIdx anchor hanchor
    simpa [ShapePredictor.numParts, ShapePredictor.map] using hless
  · intro iter forest deltas hforest hdeltas tree htree
    simp only [ShapePredictor.map, List.getElem?_map, Option.map_eq_some_iff]
      at hforest hdeltas
    obtain ⟨forest, horiginal, rfl⟩ := hforest
    obtain ⟨deltas, horiginalDeltas, rfl⟩ := hdeltas
    obtain ⟨tree, hmem, rfl⟩ := List.mem_map.mp htree
    have hwell := hpredictor.trees iter forest deltas horiginal horiginalDeltas
      tree hmem
    simpa [ShapePredictor.map] using hwell.map f

omit [ShapeFloat F] in
theorem exists_location {shape : List F} {idx : Nat}
    (hidx : idx < shape.length / 2) : ∃ part, location shape idx = some part := by
  have hx : idx * 2 < shape.length := by omega
  have hy : idx * 2 + 1 < shape.length := by omega
  refine ⟨(shape[idx * 2], shape[idx * 2 + 1]), ?_⟩
  rw [location, List.getElem?_eq_getElem hx, List.getElem?_eq_getElem hy]
  rfl

omit [ShapeFloat F] in
/-- Between shapes of one size there is a transform. -/
theorem exists_findTformBetweenShapes {geometry : ShapeGeometry F}
    {fromShape toShape : List F} (hsize : toShape.length = fromShape.length) :
    ∃ tform, findTformBetweenShapes geometry fromShape toShape = some tform := by
  have hpoints : ∀ shape : List F, shape.length = fromShape.length →
      ∃ points, (List.range (fromShape.length / 2)).mapM (location shape) =
        some points := by
    intro shape hshape
    have hone : ∀ idx ∈ List.range (fromShape.length / 2),
        ∃ part, location shape idx = some part ∧ True := by
      intro idx hidx
      have hlt := List.mem_range.mp hidx
      obtain ⟨part, hpart⟩ := exists_location (hshape ▸ hlt)
      exact ⟨part, hpart, trivial⟩
    obtain ⟨points, hpoints, _⟩ := exists_mapM_eq_some hone
    exact ⟨points, hpoints⟩
  obtain ⟨fromPoints, hfrom⟩ := hpoints fromShape rfl
  obtain ⟨toPoints, hto⟩ := hpoints toShape hsize
  unfold findTformBetweenShapes
  simp only
  split
  · exact ⟨id, rfl⟩
  · rw [hfrom, hto]
    exact ⟨_, rfl⟩

/-- There is a value for every pixel of the encoding. -/
theorem exists_extractFeaturePixelValues {geometry : ShapeGeometry F}
    {img : Array2d RgbPixel} {rect : Rectangle}
    {currentShape referenceShape : List F} {anchorIdx : List Nat}
    {deltas : List (F × F)}
    (hsize : currentShape.length = referenceShape.length)
    (hencoded : anchorIdx.length = deltas.length)
    (hanchored : ∀ anchor ∈ anchorIdx, anchor < currentShape.length / 2) :
    ∃ values, extractFeaturePixelValues geometry img rect currentShape
        referenceShape anchorIdx deltas = some values ∧
      values.length = deltas.length := by
  obtain ⟨tform, htform⟩ : ∃ tform, findTformBetweenShapes geometry
      referenceShape currentShape = some tform :=
    exists_findTformBetweenShapes hsize
  unfold extractFeaturePixelValues
  rw [htform]
  have hone : ∀ pixel ∈ deltas.zipIdx, ∃ value : F,
      (do
        let anchor ← anchorIdx[pixel.2]?
        let base ← location currentShape anchor
        let turned := tform pixel.1
        let p := geometry.unnormalize rect
          (add turned.1 base.1, add turned.2 base.2)
        if (getRect img).contains p then
          return ofUChar (getPixelIntensity (img.cell p.y.toNat p.x.toNat))
        else return ofUChar 0) = some value ∧ True := by
    rintro ⟨delta, i⟩ hpixel
    have hi : i < anchorIdx.length := by
      have hlt := List.snd_lt_of_mem_zipIdx hpixel
      omega
    obtain ⟨base, hbase⟩ :=
      exists_location (hanchored anchorIdx[i] (List.getElem_mem hi))
    simp only [List.getElem?_eq_getElem hi, Option.bind_eq_bind,
      Option.bind_some, hbase, and_true]
    split
    · exact ⟨_, rfl⟩
    · exact ⟨_, rfl⟩
  obtain ⟨values, hvalues, hall⟩ := exists_mapM_eq_some hone
  refine ⟨values, hvalues, ?_⟩
  rw [← hall.length_eq, List.length_zipIdx]

/-- Images of one size whose pixels have the same intensities. -/
structure SameGrey (img other : Array2d RgbPixel) : Prop where
  nr : img.nr = other.nr
  nc : img.nc = other.nc
  intensity : ∀ r c, r < img.nr → c < img.nc →
    getPixelIntensity (img.cell r c) = getPixelIntensity (other.cell r c)

/-- The features are intensities inside the image, and zero outside. -/
theorem extractFeaturePixelValues_of_sameGrey {img other : Array2d RgbPixel}
    (hgrey : SameGrey img other) (geometry : ShapeGeometry F) (rect : Rectangle)
    (currentShape referenceShape : List F) (anchorIdx : List Nat)
    (deltas : List (F × F)) :
    extractFeaturePixelValues geometry img rect currentShape referenceShape
        anchorIdx deltas =
      extractFeaturePixelValues geometry other rect currentShape referenceShape
        anchorIdx deltas := by
  have hvalue : ∀ p : Point,
      (if (getRect img).contains p then
          some (ofUChar (getPixelIntensity (img.cell p.y.toNat p.x.toNat)) : F)
        else some (ofUChar 0)) =
        if (getRect other).contains p then
          some (ofUChar (getPixelIntensity (other.cell p.y.toNat p.x.toNat)))
        else some (ofUChar 0) := by
    intro p
    have hrect : getRect other = getRect img := by
      rw [getRect, getRect, hgrey.nr, hgrey.nc]
    rw [hrect]
    split
    · next hinside =>
        obtain ⟨hleft, hright, htop, hbottom⟩ :=
          Rectangle.contains_iff.mp hinside
        simp only [getRect] at hleft hright htop hbottom
        rw [hgrey.intensity _ _ (by omega) (by omega)]
    · rfl
  unfold extractFeaturePixelValues
  simp only [Option.pure_def, hvalue]

namespace RegressionTree

/-- The walk stays inside the tree and stops one level below the inner nodes. -/
theorem exists_walk {tree : RegressionTree F} {values : List F}
    (hsplits : ∀ split ∈ tree.splits,
      split.idx1 < values.length ∧ split.idx2 < values.length) (i : Nat)
    (hi : i ≤ 2 * tree.splits.length) :
    ∃ leaf, tree.walk values i = some leaf ∧ tree.splits.length ≤ leaf ∧
      leaf ≤ 2 * tree.splits.length := by
  induction hrest : tree.splits.length - i using Nat.strongRecOn
    generalizing i with
  | ind rest ih =>
      unfold walk
      split
      · next hinner =>
          obtain ⟨h1, h2⟩ := hsplits _ (List.getElem_mem hinner)
          simp only [List.getElem?_eq_getElem h1, List.getElem?_eq_getElem h2,
            Option.bind_eq_bind, Option.bind_some]
          split
          · exact ih _ (by unfold leftChild; omega) (leftChild i)
              (by unfold leftChild; omega) rfl
          · exact ih _ (by unfold rightChild; omega) (rightChild i)
              (by unfold rightChild; omega) rfl
      · next hleaf => exact ⟨i, rfl, by omega, hi⟩

/-- Every walk ends at a leaf of the tree. -/
theorem exists_eval {tree : RegressionTree F} {values : List F} {size : Nat}
    (htree : tree.WellFormed values.length size) :
    ∃ leaf, tree.eval values = some leaf ∧ leaf.length = size := by
  obtain ⟨i, hwalk, hlow, hhigh⟩ := exists_walk htree.splits 0 (Nat.zero_le _)
  have hi : i - tree.splits.length < tree.leafValues.length := by
    rw [htree.leaves]
    omega
  refine ⟨tree.leafValues[i - tree.splits.length], ?_,
    htree.sizes _ (List.getElem_mem hi)⟩
  rw [eval, hwalk]
  exact List.getElem?_eq_getElem hi

end RegressionTree

theorem length_addAssign (shape leaf : List F) :
    (addAssign shape leaf).length = leaf.length := by
  unfold addAssign
  split
  · next hsame => rw [List.length_zipWith, hsame, min_self]
  · rfl

namespace ShapePredictor

/-- A level of a well-formed cascade reads only what is there and keeps the size
of the shape. -/
theorem exists_runCascade {geometry : ShapeGeometry F}
    {predictor : ShapePredictor F} (hpredictor : predictor.WellFormed)
    {img : Array2d RgbPixel} {rect : Rectangle} {currentShape : List F}
    (hsize : currentShape.length = predictor.initialShape.length)
    {level : List (RegressionTree F) × Nat}
    (hlevel : level ∈ predictor.forests.zipIdx) :
    ∃ next, predictor.runCascade geometry img rect currentShape level =
        some next ∧ next.length = predictor.initialShape.length := by
  obtain ⟨forest, iter⟩ := level
  have hforest := List.mem_zipIdx_iff_getElem?.mp hlevel
  have hiter := List.snd_lt_of_mem_zipIdx hlevel
  simp only at hforest hiter
  have hanchorIdx : iter < predictor.anchorIdx.length := by
    rw [hpredictor.anchors]
    omega
  have hdeltasIdx : iter < predictor.deltas.length := by
    rw [hpredictor.deltas]
    omega
  have hanchors := List.getElem?_eq_getElem hanchorIdx
  have hdeltas := List.getElem?_eq_getElem hdeltasIdx
  have hanchored : ∀ anchor ∈ predictor.anchorIdx[iter],
      anchor < currentShape.length / 2 := by
    intro anchor hanchor
    rw [hsize]
    exact hpredictor.anchored _ (List.getElem_mem _) anchor hanchor
  obtain ⟨values, hvalues, hlength⟩ : ∃ values,
      extractFeaturePixelValues geometry img rect currentShape
        predictor.initialShape predictor.anchorIdx[iter]
        predictor.deltas[iter] = some values ∧
      values.length = predictor.deltas[iter].length :=
    exists_extractFeaturePixelValues hsize
      (hpredictor.encoded iter _ _ hanchors hdeltas) hanchored
  have hround : ∀ shape : List F,
      shape.length = predictor.initialShape.length → ∀ tree ∈ forest,
        ∃ next, (tree.eval values).map (addAssign shape) = some next ∧
          next.length = predictor.initialShape.length := by
    intro shape _ tree htree
    have hwell := hpredictor.trees iter forest _ hforest hdeltas tree htree
    rw [← hlength] at hwell
    obtain ⟨leaf, hleaf, hleafSize⟩ := RegressionTree.exists_eval hwell
    refine ⟨addAssign shape leaf, by rw [hleaf]; rfl, ?_⟩
    rw [length_addAssign, hleafSize]
  obtain ⟨next, hnext, hlast⟩ := exists_foldlM_eq_some hround hsize
  refine ⟨next, ?_, hlast⟩
  unfold runCascade
  simp only [hanchors, hdeltas, hvalues, Option.bind_eq_bind, Option.bind_some]
  exact hnext

/-- A well-formed predictor stays inside its vectors on every image and in every
rectangle, and places exactly its parts. -/
theorem exists_run {geometry : ShapeGeometry F} {predictor : ShapePredictor F}
    (hpredictor : predictor.WellFormed) (img : Array2d RgbPixel)
    (rect : Rectangle) :
    ∃ parts, predictor.run geometry img rect = some parts ∧
      parts.length = predictor.numParts := by
  have hround : ∀ shape : List F,
      shape.length = predictor.initialShape.length →
        ∀ level ∈ predictor.forests.zipIdx,
          ∃ next, predictor.runCascade geometry img rect shape level =
              some next ∧ next.length = predictor.initialShape.length :=
    fun _ hsize _ hlevel => exists_runCascade hpredictor hsize hlevel
  obtain ⟨shape, hshape, hsize⟩ := exists_foldlM_eq_some hround rfl
  have hone : ∀ i ∈ List.range (shape.length / 2), ∃ p : Point,
      (do
        let part ← location shape i
        return geometry.unnormalize rect part) = some p ∧ True := by
    intro i hi
    obtain ⟨part, hpart⟩ := exists_location (List.mem_range.mp hi)
    exact ⟨_, by rw [hpart]; rfl, trivial⟩
  obtain ⟨parts, hparts, hall⟩ := exists_mapM_eq_some hone
  refine ⟨parts, ?_, ?_⟩
  · rw [run, hshape]
    exact hparts
  · rw [← hall.length_eq, List.length_range, hsize]
    rfl

/-- The predictor sees no more of an image than its intensities. -/
theorem run_of_sameGrey {img other : Array2d RgbPixel}
    (hgrey : SameGrey img other) (geometry : ShapeGeometry F)
    (predictor : ShapePredictor F) (rect : Rectangle) :
    predictor.run geometry img rect = predictor.run geometry other rect := by
  have hlevel : predictor.runCascade geometry img rect =
      predictor.runCascade geometry other rect := by
    funext shape level
    simp only [runCascade, extractFeaturePixelValues_of_sameGrey hgrey]
  rw [run, run, hlevel]

end ShapePredictor

end Dlib
end ImportDlibDemo
