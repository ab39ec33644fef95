import ImportDlibDemo.Detector.FrameTransform

/-!
# Does the adjusted bound stay inside the bitmap?

`detect` truncates the box of a face, insets it by a tenth of its width and a
sixth of its height, and moves it down by a quarter of the height that is left.
Where the mirroring is right, a face inside the upright image gives a bound that
keeps to its left, right and upper edge.  The inset does not always pay for the
move downwards: when the height leaves a remainder of 4 or 5 modulo 6 the bound
ends one row lower than the face, and for a face at the lower edge that row is
below the bitmap.
-/

namespace ImportDlibDemo
namespace Detector

open Android
open Library
open Library.PlaneBox
open Library.Truncation

/-- The height of the upright frame. -/
def uprightHeight (frame : Frame) : Nat :=
  match frame.metadata.rotation with
  | .rotation0 => frame.metadata.height
  | .rotation90 => frame.metadata.width
  | .rotation180 => frame.metadata.height
  | .rotation270 => frame.metadata.width

/-- The sides of the rectangle are in order and lie within an image. -/
structure WithinImage (width height : Int) (rect : Rect) : Prop where
  left_nonneg : 0 ≤ rect.left
  left_le_right : rect.left ≤ rect.right
  right_le : rect.right ≤ width
  top_nonneg : 0 ≤ rect.top
  top_le_bottom : rect.top ≤ rect.bottom
  bottom_le : rect.bottom ≤ height

/-- `detect` mirrors in the metadata's height, which is the upright width of a
frame on its side. -/
def MirrorsInUprightWidth (mIsFrontCamera : Bool) (frame : Frame) : Prop :=
  mIsFrontCamera = true →
    frame.metadata.rotation = .rotation90 ∨ frame.metadata.rotation = .rotation270

/-! ## The adjustment in integers -/

/-- What `detect` does to a box once its sides are integers. -/
def adjust (bound : Rect) : Rect :=
  let inset := bound.inset (bound.width.tdiv 10) (bound.height.tdiv 6)
  inset.offset 0 (inset.height.tdiv 4)

/-- Sideways the bound shrinks. -/
theorem adjust_columns {bound : Rect} (hwidth : bound.left ≤ bound.right) :
    bound.left ≤ (adjust bound).left ∧
      (adjust bound).left ≤ (adjust bound).right ∧
      (adjust bound).right ≤ bound.right := by
  have hdx : bound.width.tdiv 10 = (bound.right - bound.left) / 10 := by
    apply Int.tdiv_eq_ediv_of_nonneg
    show 0 ≤ bound.right - bound.left
    omega
  show bound.left ≤ bound.left + bound.width.tdiv 10 + 0 ∧
    bound.left + bound.width.tdiv 10 + 0 ≤ bound.right - bound.width.tdiv 10 + 0 ∧
    bound.right - bound.width.tdiv 10 + 0 ≤ bound.right
  rw [hdx]
  omega

/-- Downwards the bound moves one row more than it shrinks, for two remainders
of its height out of six. -/
theorem adjust_rows {bound : Rect} (hheight : bound.top ≤ bound.bottom) :
    bound.top ≤ (adjust bound).top ∧
      (adjust bound).top ≤ (adjust bound).bottom ∧
      (adjust bound).bottom = bound.bottom +
        if 4 ≤ (bound.bottom - bound.top) % 6 then 1 else 0 := by
  have hdy : bound.height.tdiv 6 = (bound.bottom - bound.top) / 6 := by
    apply Int.tdiv_eq_ediv_of_nonneg
    show 0 ≤ bound.bottom - bound.top
    omega
  -- A quarter of what is left of the height: the whole sixths and the rest.
  have hmove : (bound.bottom - (bound.bottom - bound.top) / 6 -
      (bound.top + (bound.bottom - bound.top) / 6)).tdiv 4 =
        (bound.bottom - bound.top) / 6 + (bound.bottom - bound.top) % 6 / 4 := by
    rw [Int.tdiv_eq_ediv_of_nonneg (by omega)]
    omega
  show bound.top ≤ bound.top + bound.height.tdiv 6 +
      (bound.bottom - bound.height.tdiv 6 -
        (bound.top + bound.height.tdiv 6)).tdiv 4 ∧
    bound.top + bound.height.tdiv 6 +
      (bound.bottom - bound.height.tdiv 6 -
        (bound.top + bound.height.tdiv 6)).tdiv 4 ≤
      bound.bottom - bound.height.tdiv 6 +
      (bound.bottom - bound.height.tdiv 6 -
        (bound.top + bound.height.tdiv 6)).tdiv 4 ∧
    bound.bottom - bound.height.tdiv 6 +
      (bound.bottom - bound.height.tdiv 6 -
        (bound.top + bound.height.tdiv 6)).tdiv 4 = _
  rw [hdy, hmove]
  refine ⟨by omega, by omega, ?_⟩
  split_ifs <;> omega

theorem adjust_within {width height : Int} {bound : Rect}
    (hbound : WithinImage width height bound) :
    WithinImage width (height + 1) (adjust bound) := by
  obtain ⟨hleft, hcolumns, hright⟩ := adjust_columns hbound.left_le_right
  obtain ⟨htop, hrows, hlast⟩ := adjust_rows hbound.top_le_bottom
  have hlowest : (adjust bound).bottom ≤ height + 1 := by
    have hbottom := hbound.bottom_le
    rw [hlast]
    split_ifs <;> omega
  exact
    { left_nonneg := hbound.left_nonneg.trans hleft
      left_le_right := hcolumns
      right_le := hright.trans hbound.right_le
      top_nonneg := hbound.top_nonneg.trans htop
      top_le_bottom := hrows
      bottom_le := hlowest }

/-- The extra row shows at the lower edge only. -/
theorem adjust_bottom_eq_iff {width height : Int} {bound : Rect}
    (hbound : WithinImage width height bound) :
    (adjust bound).bottom = height + 1 ↔
      bound.bottom = height ∧ 4 ≤ (height - bound.top) % 6 := by
  obtain ⟨_, _, hlast⟩ := adjust_rows hbound.top_le_bottom
  have hbottom := hbound.bottom_le
  rw [hlast]
  constructor
  · intro hovershoot
    split_ifs at hovershoot with hremainder
    · have hedge : bound.bottom = height := by omega
      exact ⟨hedge, hedge ▸ hremainder⟩
    · omega
  · rintro ⟨hedge, hremainder⟩
    rw [hedge, if_pos hremainder]

/-! ## From a face to its bound -/

/-- `detect` makes one bound a face, in the order of the sparse array. -/
theorem faceBounds_eq_map {R : Type} [NatCast R] [Sub R] [Add R] [Coordinate R]
    (mIsFrontCamera : Bool) (frame : Frame)
    (faces : SparseArray (VisionFace R)) :
    faceBounds mIsFrontCamera frame faces =
      faces.values.map fun face =>
        adjustedBound (detectedBox mIsFrontCamera frame face) := by
  rw [← SparseArray.filterMap_get_keyAt, List.map_filterMap]
  rfl

section

variable {R : Type} [Field R] [LinearOrder R] [IsStrictOrderedRing R] [FloorRing R]

/-- The sides of the box are in order and lie within an image. -/
structure BoxWithin (width height : Nat) (box : Box R) : Prop where
  left_nonneg : 0 ≤ box.left
  left_le_right : box.left ≤ box.right
  right_le : box.right ≤ width
  top_nonneg : 0 ≤ box.top
  top_le_bottom : box.top ≤ box.bottom
  bottom_le : box.bottom ≤ height

/-- The face has a size and lies within the upright image. -/
structure InsideUpright (frame : Frame) (face : VisionFace R) : Prop where
  width_nonneg : 0 ≤ face.width
  height_nonneg : 0 ≤ face.height
  left_nonneg : 0 ≤ face.position.x
  right_le : face.position.x + face.width ≤ uprightWidth frame
  top_nonneg : 0 ≤ face.position.y
  bottom_le : face.position.y + face.height ≤ uprightHeight frame

/-- The face ends at the lower edge of the image, and the rows down to there
leave a remainder of 4 or 5 modulo 6. -/
def OvershootsLowerEdge (frame : Frame) (face : VisionFace R) : Prop :=
  face.position.y + face.height = uprightHeight frame ∧
    4 ≤ (uprightHeight frame - ⌊face.position.y⌋) % 6

/-- The box with its sides rounded down. -/
def floorRect (box : Box R) : Rect where
  left := ⌊box.left⌋
  top := ⌊box.top⌋
  right := ⌊box.right⌋
  bottom := ⌊box.bottom⌋

theorem floorRect_within {width height : Nat} {box : Box R}
    (hbox : BoxWithin width height box) :
    WithinImage width height (floorRect box) where
  left_nonneg := Int.floor_nonneg.mpr hbox.left_nonneg
  left_le_right := Int.floor_le_floor hbox.left_le_right
  right_le := by exact_mod_cast (Int.floor_le box.right).trans hbox.right_le
  top_nonneg := Int.floor_nonneg.mpr hbox.top_nonneg
  top_le_bottom := Int.floor_le_floor hbox.top_le_bottom
  bottom_le := by exact_mod_cast (Int.floor_le box.bottom).trans hbox.bottom_le

omit [IsStrictOrderedRing R] in
/-- The sides of a box in the image are not negative, so they are rounded
down. -/
theorem adjustedBound_eq_adjust {width height : Nat} {box : Box R}
    (hbox : BoxWithin width height box) :
    adjustedBound box = adjust (floorRect box) := by
  have hright := hbox.left_nonneg.trans hbox.left_le_right
  have hbottom := hbox.top_nonneg.trans hbox.top_le_bottom
  -- Exact coordinates are truncated, and an `int` keeps every sum.
  have hexact : adjustedBound box = adjust ⟨truncate box.left, truncate box.top,
      truncate box.right, truncate box.bottom⟩ := rfl
  rw [hexact, truncate_of_nonneg hbox.left_nonneg,
    truncate_of_nonneg hbox.top_nonneg, truncate_of_nonneg hright,
    truncate_of_nonneg hbottom]
  rfl

theorem floor_eq_iff_of_le {x : R} {n : Nat} (hx : x ≤ n) :
    ⌊x⌋ = n ↔ x = n := by
  constructor
  · intro hfloor
    have hle := Int.floor_le x
    rw [hfloor] at hle
    exact hx.antisymm (by exact_mod_cast hle)
  · intro hequal
    rw [hequal, Int.floor_natCast]

omit [FloorRing R] in
/-- With the mirroring right, the box of a face in the upright image lies in it
too. -/
theorem detectedBox_within {mIsFrontCamera : Bool} {frame : Frame}
    (hmirror : MirrorsInUprightWidth mIsFrontCamera frame) {face : VisionFace R}
    (hface : InsideUpright frame face) :
    BoxWithin (uprightWidth frame) (uprightHeight frame)
      (detectedBox mIsFrontCamera frame face) := by
  have hleft := hface.left_nonneg
  have hright := hface.right_le
  have hwidth := hface.width_nonneg
  have hheight := hface.height_nonneg
  cases mIsFrontCamera with
  | false =>
      exact
        { left_nonneg := hleft
          left_le_right := le_add_of_nonneg_right hwidth
          right_le := hright
          top_nonneg := hface.top_nonneg
          top_le_bottom := le_add_of_nonneg_right hheight
          bottom_le := hface.bottom_le }
  | true =>
      have hside : (frame.metadata.height : R) = uprightWidth frame := by
        rcases hmirror rfl with hrotation | hrotation
        · rw [uprightWidth, hrotation]
        · rw [uprightWidth, hrotation]
      constructor
      · show 0 ≤ (frame.metadata.height : R) - face.position.x - face.width
        linarith
      · exact le_add_of_nonneg_right hwidth
      · show (frame.metadata.height : R) - face.position.x - face.width +
          face.width ≤ _
        linarith
      · exact hface.top_nonneg
      · exact le_add_of_nonneg_right hheight
      · exact hface.bottom_le

/-- Faces inside the upright image give bounds inside the bitmap, up to one row
below it; that row is used exactly for the faces that overshoot the lower
edge. -/
theorem faceBounds_within {mIsFrontCamera : Bool} {frame : Frame}
    (hmirror : MirrorsInUprightWidth mIsFrontCamera frame)
    {faces : SparseArray (VisionFace R)}
    (hfaces : ∀ face ∈ faces.values, InsideUpright frame face) :
    List.Forall₂
      (fun face bound =>
        WithinImage (uprightWidth frame) (uprightHeight frame + 1) bound ∧
          (WithinImage (uprightWidth frame) (uprightHeight frame) bound ↔
            ¬ OvershootsLowerEdge frame face))
      faces.values (faceBounds mIsFrontCamera frame faces) := by
  rw [faceBounds_eq_map, List.forall₂_map_right_iff, List.forall₂_same]
  intro face hmem
  have hface := hfaces face hmem
  have hbox := detectedBox_within hmirror hface
  have hfloor := floorRect_within hbox
  rw [adjustedBound_eq_adjust hbox]
  have hadjusted := adjust_within hfloor
  refine ⟨hadjusted, ?_⟩
  have hovershoots : (adjust (floorRect
      (detectedBox mIsFrontCamera frame face))).bottom = uprightHeight frame + 1 ↔
        OvershootsLowerEdge frame face := by
    rw [adjust_bottom_eq_iff hfloor]
    exact and_congr_left fun _ => floor_eq_iff_of_le hface.bottom_le
  rw [← hovershoots]
  constructor
  · intro hwithin hrow
    have hlast := hwithin.bottom_le
    omega
  · intro hrow
    have hlast := hadjusted.bottom_le
    exact { hadjusted with bottom_le := by omega }

end

/-- A frame of the back camera, 640 by 480 and upright as it is. -/
def uprightFrame : Frame where
  metadata := { width := 640, height := 480, rotation := .rotation0 }
  hasBitmap := false

/-- A face at the lower edge of that frame, and a smaller one above it. -/
def lowerEdgeFaces : SparseArray GoogleFace :=
  (SparseArray.empty.put 0 ⟨⟨100, 380⟩, 100, 100⟩).put 1 ⟨⟨300, 200⟩, 60, 60⟩

theorem lowerEdgeFaces_values :
    lowerEdgeFaces.values = [⟨⟨100, 380⟩, 100, 100⟩, ⟨⟨300, 200⟩, 60, 60⟩] := rfl

theorem lowerEdgeFaces_insideUpright :
    ∀ face ∈ lowerEdgeFaces.values, InsideUpright uprightFrame face := by
  rw [lowerEdgeFaces_values]
  simp only [List.forall_mem_cons, List.not_mem_nil, IsEmpty.forall_iff,
    implies_true, and_true]
  constructor
  · constructor <;> norm_num [uprightFrame, uprightWidth, uprightHeight]
  · constructor <;> norm_num [uprightFrame, uprightWidth, uprightHeight]

theorem lowerEdgeFaces_bounds_within :
    List.Forall₂
      (fun face bound =>
        WithinImage 640 (480 + 1) bound ∧
          (WithinImage 640 480 bound ↔ ¬ OvershootsLowerEdge uprightFrame face))
      lowerEdgeFaces.values (faceBounds false uprightFrame lowerEdgeFaces) :=
  faceBounds_within (by intro hfront; cases hfront) lowerEdgeFaces_insideUpright

/-- The first bound ends at row 481 of 480. -/
theorem lowerEdgeFaces_bound_below_bitmap :
    (∀ face ∈ lowerEdgeFaces.values, InsideUpright uprightFrame face) ∧
      faceBounds false uprightFrame lowerEdgeFaces =
        [⟨110, 413, 190, 481⟩, ⟨306, 220, 354, 260⟩] ∧
      ¬ WithinImage (uprightWidth uprightFrame) (uprightHeight uprightFrame)
        ⟨110, 413, 190, 481⟩ := by
  refine ⟨lowerEdgeFaces_insideUpright, ?_, ?_⟩
  · rw [faceBounds_eq_map, lowerEdgeFaces_values]
    norm_num [adjustedBound, detectedBox, Coordinate.toInt, Coordinate.keep,
      truncate, Rect.map, Rect.inset, Rect.offset, Rect.width, Rect.height]
    decide
  · intro hwithin
    have hbottom : (481 : Int) ≤ 480 := hwithin.bottom_le
    omega

end Detector
end ImportDlibDemo
