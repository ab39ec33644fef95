import ImportDlibDemo.Dlib.Rectangles
import ImportDlibDemo.Library.Truncation

/-!
# Where the cells of a FHOG feature map lie

`extract_fhog_features` gathers the pixels of an image into square cells.  Every
cell is a place of the feature map, `image_to_fhog` takes a pixel to its cell
and `fhog_to_image` a cell to the pixel in its middle.  The window a detector
slides over the map is a rectangle of cells.
-/

namespace ImportDlibDemo
namespace Dlib

open Library.Truncation

/-- `cell_size`, `filter_rows_padding` and `filter_cols_padding`. -/
structure FhogCells where
  cellSize : Int
  filterRowsPadding : Int
  filterColsPadding : Int
  deriving DecidableEq, Repr

namespace FhogCells

variable (cells : FhogCells)

/-- How far the padding of the filters moves the map. -/
def padding : Point where
  x := (cells.filterColsPadding - 1).tdiv 2
  y := (cells.filterRowsPadding - 1).tdiv 2

/-- `image_to_fhog` of a point.  There is a border of one pixel around the image
and one of a cell around the map. -/
def imageToFhog (p : Point) : Point where
  x := (p.x - 1).tdiv cells.cellSize - 1 + cells.padding.x
  y := (p.y - 1).tdiv cells.cellSize - 1 + cells.padding.y

/-- `image_to_fhog` of a rectangle. -/
def imageToFhogRect (rect : Rectangle) : Rectangle :=
  .ofPoints (cells.imageToFhog rect.tlCorner) (cells.imageToFhog rect.brCorner)

/-- `fhog_to_image` of a point: the corner of the cell, and from there to its
middle.  The four cases of the source are two for each coordinate. -/
def fhogToImage (p : Point) : Point :=
  let x := (p.x + 1 - cells.padding.x) * cells.cellSize + 1
  let y := (p.y + 1 - cells.padding.y) * cells.cellSize + 1
  { x := x + if 0 ≤ x then cells.cellSize.tdiv 2 else (-cells.cellSize).tdiv 2
    y := y + if 0 ≤ y then cells.cellSize.tdiv 2 else (-cells.cellSize).tdiv 2 }

/-- `fhog_to_image` of a rectangle. -/
def fhogToImageRect (rect : Rectangle) : Rectangle :=
  .ofPoints (cells.fhogToImage rect.tlCorner) (cells.fhogToImage rect.brCorner)

end FhogCells

/-- `centered_rect`. -/
def centeredRect (p : Point) (width height : Nat) : Rectangle :=
  let left := p.x - (width : Int).tdiv 2
  let top := p.y - (height : Int).tdiv 2
  ⟨left, top, left + width - 1, top + height - 1⟩

/-- `shrink_rect`. -/
def shrinkRect (rect : Rectangle) (num : Int) : Rectangle :=
  ⟨rect.left + num, rect.top + num, rect.right - num, rect.bottom - num⟩

/-- `grow_rect`. -/
def growRect (rect : Rectangle) (num : Int) : Rectangle :=
  shrinkRect rect (-num)

namespace FhogCells

variable {cells : FhogCells}

/-- A coordinate of `fhogToImage` is the middle of its cell. -/
theorem coordinate_eq_middle {n q : Int} (hn : 0 < n) :
    (q * n + 1 + if 0 ≤ q * n + 1 then n.tdiv 2 else (-n).tdiv 2) =
      middle n q + 1 := by
  have hhalf : n.tdiv 2 = n / 2 := Int.tdiv_eq_ediv_of_nonneg hn.le
  rw [Int.neg_tdiv, hhalf, middle]
  by_cases hq : 0 ≤ q
  · have hcell : 0 ≤ q * n := Int.mul_nonneg hq hn.le
    rw [if_pos hq, if_pos (by omega)]
    omega
  · have hcell : q * n ≤ -n := by
      have hfirst : q * n ≤ -1 * n :=
        Int.mul_le_mul_of_nonneg_right (by omega) hn.le
      rwa [neg_one_mul] at hfirst
    rw [if_neg hq]
    -- Only cells of one pixel reach the border there, and they have no half.
    split <;> omega

theorem fhogToImage_eq (hcell : 0 < cells.cellSize) (p : Point) :
    cells.fhogToImage p =
      ⟨middle cells.cellSize (p.x + 1 - cells.padding.x) + 1,
        middle cells.cellSize (p.y + 1 - cells.padding.y) + 1⟩ := by
  unfold fhogToImage
  simp only [coordinate_eq_middle hcell]

/-- The pixel in the middle of a cell belongs to the cell. -/
theorem imageToFhog_fhogToImage (hcell : 0 < cells.cellSize) (p : Point) :
    cells.imageToFhog (cells.fhogToImage p) = p := by
  obtain ⟨x, y⟩ := p
  rw [fhogToImage_eq hcell, imageToFhog, Point.mk.injEq]
  simp only [add_sub_cancel_right, tdiv_middle hcell]
  omega

/-- The corners of a rectangle keep their order on the way to the image. -/
theorem fhogToImageRect_eq (hcell : 0 < cells.cellSize) (rect : Rectangle) :
    cells.fhogToImageRect rect =
      let topLeft := cells.fhogToImage
        ⟨min rect.left rect.right, min rect.top rect.bottom⟩
      let bottomRight := cells.fhogToImage
        ⟨max rect.left rect.right, max rect.top rect.bottom⟩
      ⟨topLeft.x, topLeft.y, bottomRight.x, bottomRight.y⟩ := by
  have hmono := (middle_strictMono hcell).monotone
  simp only [fhogToImageRect, Rectangle.ofPoints_eq, Rectangle.tlCorner,
    Rectangle.brCorner, fhogToImage_eq hcell, ← max_add_add_right,
    ← min_add_add_right, ← max_sub_sub_right, ← min_sub_sub_right,
    hmono.map_min, hmono.map_max]

/-- From a rectangle to the image and back one comes to the rectangle of the same
corners. -/
theorem imageToFhogRect_fhogToImageRect (hcell : 0 < cells.cellSize)
    (rect : Rectangle) :
    cells.imageToFhogRect (cells.fhogToImageRect rect) =
      .ofPoints rect.tlCorner rect.brCorner := by
  rw [fhogToImageRect_eq hcell, imageToFhogRect]
  simp only [Rectangle.tlCorner, Rectangle.brCorner,
    imageToFhog_fhogToImage hcell, Rectangle.ofPoints_eq]
  simp

/-- Behind the padding the pixels of a cell are a square around the pixel in its
middle. -/
theorem imageToFhog_eq_iff (hcell : 0 < cells.cellSize) {place : Point}
    (hx : cells.padding.x ≤ place.x) (hy : cells.padding.y ≤ place.y) {p : Point} :
    let corner : Point :=
      ⟨(cells.fhogToImage place).x - cells.cellSize / 2,
        (cells.fhogToImage place).y - cells.cellSize / 2⟩
    cells.imageToFhog p = place ↔
      corner.x ≤ p.x ∧ p.x < corner.x + cells.cellSize ∧
        corner.y ≤ p.y ∧ p.y < corner.y + cells.cellSize := by
  intro corner
  have hcolumn := tdiv_eq_iff_of_pos hcell
    (show 0 < place.x + 1 - cells.padding.x by omega) (a := p.x - 1)
  have hrow := tdiv_eq_iff_of_pos hcell
    (show 0 < place.y + 1 - cells.padding.y by omega) (a := p.y - 1)
  have hcorner : corner =
      ⟨(place.x + 1 - cells.padding.x) * cells.cellSize + 1,
        (place.y + 1 - cells.padding.y) * cells.cellSize + 1⟩ := by
    simp only [corner, fhogToImage_eq hcell, middle]
    rw [if_pos (by omega), if_pos (by omega)]
    congr 1 <;> omega
  have hplace : cells.imageToFhog p = place ↔
      (p.x - 1).tdiv cells.cellSize = place.x + 1 - cells.padding.x ∧
        (p.y - 1).tdiv cells.cellSize = place.y + 1 - cells.padding.y := by
    obtain ⟨x, y⟩ := place
    rw [imageToFhog, Point.mk.injEq]
    simp only
    omega
  rw [hplace, hcolumn, hrow, hcorner]
  simp only
  omega

/-! ## Windows -/

/-- The part of the image under a window of cells around a place. -/
def window (cells : FhogCells) (width height : Nat) (place : Point) : Rectangle :=
  cells.fhogToImageRect (centeredRect place width height)

/-- A window of some size is not empty. -/
theorem centeredRect_nonempty {width height : Nat} (hwidth : 0 < width)
    (hheight : 0 < height) (place : Point) :
    (centeredRect place width height).isEmpty = false := by
  rw [Bool.eq_false_iff, ne_eq, Rectangle.isEmpty_iff]
  simp only [centeredRect]
  omega

/-- No two places have the same window. -/
theorem window_injective (hcell : 0 < cells.cellSize) {width height : Nat}
    (hwidth : 0 < width) (hheight : 0 < height) :
    Function.Injective (cells.window width height) := by
  have hback : ∀ place, cells.imageToFhogRect (cells.window width height place) =
      centeredRect place width height := by
    intro place
    rw [window, imageToFhogRect_fhogToImageRect hcell]
    exact Rectangle.ofPoints_corners_eq_iff.mpr
      (centeredRect_nonempty hwidth hheight place)
  intro place other hsame
  have hrect := congrArg cells.imageToFhogRect hsame
  rw [hback, hback] at hrect
  obtain ⟨x, y⟩ := place
  obtain ⟨x', y'⟩ := other
  simp only [centeredRect, Rectangle.mk.injEq] at hrect
  rw [Point.mk.injEq]
  omega

/-- A window lies around the middle of the cell at its place. -/
theorem window_contains (hcell : 0 < cells.cellSize) {width height : Nat}
    (hwidth : 0 < width) (hheight : 0 < height) (place : Point) :
    (cells.window width height place).contains (cells.fhogToImage place) = true := by
  have hmono := (middle_strictMono hcell).monotone
  have hhalf : ∀ n : Nat, (n : Int).tdiv 2 = n / 2 :=
    fun n => Int.tdiv_eq_ediv_of_nonneg (Int.natCast_nonneg n)
  rw [Rectangle.contains_iff]
  simp only [window, fhogToImageRect_eq hcell, centeredRect, fhogToImage_eq hcell,
    add_le_add_iff_right, hhalf]
  refine ⟨hmono ?_, hmono ?_, hmono ?_, hmono ?_⟩ <;> omega

/-- Cells of eight pixels and filters of ten by ten cells. -/
def toyCells : FhogCells := ⟨8, 10, 10⟩

/-- An empty rectangle comes back with its corners in order. -/
example : toyCells.imageToFhogRect (toyCells.fhogToImageRect ⟨10, 12, 3, 4⟩) =
    ⟨3, 4, 10, 12⟩ := by
  decide

end FhogCells

/-! ## The windows of a scanner -/

namespace ScanFhogPyramid

/-- `compute_fhog_window_size`: width and height. -/
def computeFhogWindowSize (scanner : ScanFhogPyramid) : Nat × Nat :=
  let rect := centeredRect ⟨0, 0⟩ scanner.windowWidth scanner.windowHeight
  let cells : FhogCells := ⟨scanner.cellSize, 1, 1⟩
  let temp := growRect (cells.imageToFhogRect rect) scanner.padding
  (temp.width, temp.height)

/-- `get_num_planes`. -/
def numPlanes : Nat := 31

/-- `get_num_dimensions`; cells of no size are a division by zero. -/
def numDimensions (scanner : ScanFhogPyramid) : Option Nat :=
  if scanner.cellSize = 0 then none
  else
    let (width, height) := scanner.computeFhogWindowSize
    some (width * height * numPlanes)

/-- The window of a default-constructed scanner. -/
example : ScanFhogPyramid.new.numDimensions = some 3100 := by
  decide

end ScanFhogPyramid

end Dlib
end ImportDlibDemo
