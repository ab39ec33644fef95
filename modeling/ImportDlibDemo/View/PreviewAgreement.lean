import ImportDlibDemo.View.FaceLandmarksOverlayView
import ImportDlibDemo.View.PreviewFit

/-!
# Do overlay and preview agree?

The preview fits the size the camera reports, swapped in portrait mode, into the
layout; the overlay fits the constants 240 by 320 that the activity passes.  In
one layout both show a point of the picture at the same place, up to rounding,
exactly when the reported size has the shape of the constants.
-/

namespace ImportDlibDemo
namespace View

open Data
open Library.AspectFit

/-- A preview size the camera reports. -/
structure ReportedSize extends Size where
  width_pos : 0 < width
  height_pos : 0 < height

/-- `CameraDetectActivity.PREVIEW_WIDTH`. -/
def PREVIEW_WIDTH : Int := 320

/-- `CameraDetectActivity.PREVIEW_HEIGHT`. -/
def PREVIEW_HEIGHT : Int := 240

/-- `CameraDetectActivity.onClick` on the detect button. -/
def onClick (overlay : FaceLandmarksOverlayView ℚ) :
    FaceLandmarksOverlayView ℚ :=
  overlay.setCameraPreviewSize PREVIEW_HEIGHT PREVIEW_WIDTH

/-- The reported size after the portrait swap. -/
def ReportedSize.shown (reported : ReportedSize) (orientation : Orientation) :
    ReportedSize :=
  if CameraSourcePreview.isPortraitMode orientation then
    { width := reported.height, height := reported.width
      width_pos := reported.height_pos, height_pos := reported.width_pos }
  else
    reported

/-- The tolerance for a shown size: one pixel, and the longer side measured in
the shorter one. -/
def ReportedSize.tolerance (shown : ReportedSize) : ℚ :=
  1 + max ((shown.width : ℚ) / shown.height) ((shown.height : ℚ) / shown.width)

/-- Both views in one layout of positive size, the preview with a camera that
reports its size. -/
structure LaidOut {Src : Type} (source : Src) (orientation : Orientation)
    (reported : ReportedSize) where
  preview : CameraSourcePreview Src
  overlay : FaceLandmarksOverlayView ℚ
  layout : LayoutCall
  attempt : Attempt
  source_eq : preview.mCameraSource = some source
  orientation_eq : layout.orientation = orientation
  previewSize_eq : layout.previewSize = some reported.toSize
  width_pos : 0 < layout.right - layout.left
  height_pos : 0 < layout.bottom - layout.top
  overlay_width : overlay.width = layout.right - layout.left
  overlay_height : overlay.height = layout.bottom - layout.top

namespace LaidOut

variable {Src : Type} {source : Src} {orientation : Orientation}
  {reported : ReportedSize}

/-- The child of the preview after `onLayout`. -/
def child (views : LaidOut source orientation reported) : Size :=
  (CameraSourcePreview.onLayout views.layout views.attempt
    views.preview).view.mSurfaceView

/-- The circle for a normalised point is drawn where the preview shows the
point, up to the tolerance in each axis. -/
def DrawnNear (views : LaidOut source orientation reported)
    (mark circle : Landmark ℚ) : Prop :=
  0 ≤ mark.x → mark.x ≤ 1 → 0 ≤ mark.y → mark.y ≤ 1 →
    |circle.x - mark.x * views.child.width| <
        (reported.shown orientation).tolerance ∧
      |circle.y - mark.y * views.child.height| <
        (reported.shown orientation).tolerance

/-- After the click, every landmark of every face that is set is drawn near the
place where the preview shows it. -/
def Agree (views : LaidOut source orientation reported) : Prop :=
  ∀ faces : List (DLibFace68 ℚ),
    List.Forall₂ (List.Forall₂ views.DrawnNear)
      (faces.map DLibFace68.mLandmarks)
      (((onClick views.overlay).setFaces faces).onDrawForeground.map
        FaceLandmarksOverlayView.Drawing.circles)

/-! ## The two fits -/

/-- `onLayout` works with the reported size after the swap. -/
theorem previewSize_eq_shown (views : LaidOut source orientation reported) :
    CameraSourcePreview.previewSize views.preview.mCameraSource
        views.layout.previewSize views.layout.orientation =
      (reported.shown orientation).toSize := by
  rw [views.source_eq, views.previewSize_eq, views.orientation_eq]
  unfold CameraSourcePreview.previewSize ReportedSize.shown
  cases CameraSourcePreview.isPortraitMode orientation with
  | false => rfl
  | true => rfl

/-- The child is the truncated fit of the shown size. -/
theorem child_eq_fitTruncated (views : LaidOut source orientation reported) :
    (views.child.width, views.child.height) =
      fitTruncated (views.layout.right - views.layout.left)
        (views.layout.bottom - views.layout.top)
        ((reported.shown orientation).width : ℚ)
        ((reported.shown orientation).height : ℚ) := by
  rw [child, CameraSourcePreview.onLayout,
    CameraSourcePreview.startIfReadyLogged_mSurfaceView,
    CameraSourcePreview.layOut, views.previewSize_eq_shown]
  exact CameraSourcePreview.childSize_eq_fitTruncated _ _ _ _

/-- A point is drawn by the exact fit of the constants. -/
theorem drawnAt_onClick (views : LaidOut source orientation reported)
    (mark : Landmark ℚ) :
    (onClick views.overlay).drawnAt mark =
      let scale := fitScale ((views.layout.right - views.layout.left : Int) : ℚ)
        ((views.layout.bottom - views.layout.top : Int) : ℚ) 240 320
      ⟨mark.x * (240 * scale), mark.y * (320 * scale)⟩ := by
  simp only [FaceLandmarksOverlayView.drawnAt, onClick,
    FaceLandmarksOverlayView.setCameraPreviewSize, PREVIEW_WIDTH,
    PREVIEW_HEIGHT, views.overlay_width, views.overlay_height, fitScale]
  push_cast
  rw [Landmark.mk.injEq]
  constructor <;> ring

/-- All landmarks of all faces are drawn near when each single one is. -/
theorem agree_iff (views : LaidOut source orientation reported) :
    views.Agree ↔ ∀ mark, views.DrawnNear mark
      ((onClick views.overlay).drawnAt mark) := by
  unfold Agree
  simp only [FaceLandmarksOverlayView.circles_of_setFaces,
    List.forall₂_map_left_iff, List.forall₂_map_right_iff]
  constructor
  · intro hagree mark
    have hface := hagree [{ mBound := ⟨0, 0, 1, 1⟩, mLandmarks := [mark] }]
    simpa using hface
  · intro hnear faces
    apply List.forall₂_same.mpr
    intro face _
    apply List.forall₂_same.mpr
    intro mark _
    exact hnear mark

/-! ## Where the shapes agree -/

/-- The child is off the exact fit of the shown size by less than the
tolerance. -/
theorem child_near_fit (views : LaidOut source orientation reported) :
    let shown := reported.shown orientation
    let scale := fitScale ((views.layout.right - views.layout.left : Int) : ℚ)
      ((views.layout.bottom - views.layout.top : Int) : ℚ) shown.width
      shown.height
    |shown.width * scale - views.child.width| < shown.tolerance ∧
      |shown.height * scale - views.child.height| < shown.tolerance := by
  intro shown scale
  have hw : (0 : ℚ) < shown.width := Int.cast_pos.mpr shown.width_pos
  have hh : (0 : ℚ) < shown.height := Int.cast_pos.mpr shown.height_pos
  have hnear := fitTruncated_near views.width_pos views.height_pos hw hh
  rw [← views.child_eq_fitTruncated] at hnear
  have hratio : (0 : ℚ) < shown.width / shown.height := div_pos hw hh
  have hmax := le_max_left ((shown.width : ℚ) / shown.height)
    ((shown.height : ℚ) / shown.width)
  have hone : 1 ≤ shown.tolerance := by
    unfold ReportedSize.tolerance
    linarith
  have hwide : max 1 ((shown.width : ℚ) / shown.height) ≤ shown.tolerance := by
    apply max_le hone
    unfold ReportedSize.tolerance
    linarith
  exact ⟨hnear.1.trans_le hwide, hnear.2.trans_le hone⟩

/-- A coordinate scaled by a factor up to one stays as near. -/
theorem scaled_near {t exact shown tolerance : ℚ} (ht : 0 ≤ t) (ht' : t ≤ 1)
    (hnear : |exact - shown| < tolerance) :
    |t * exact - t * shown| < tolerance := by
  rw [← mul_sub, abs_mul, abs_of_nonneg ht]
  exact (mul_le_of_le_one_left (abs_nonneg _) ht').trans_lt hnear

/-- A shown size of the shape of the constants: every point is drawn near. -/
theorem agree_of_shape (views : LaidOut source orientation reported)
    (hshape : 4 * (reported.shown orientation).width =
      3 * (reported.shown orientation).height) : views.Agree := by
  rw [agree_iff]
  intro mark hx hx' hy hy'
  have hw : (0 : ℚ) < (reported.shown orientation).width :=
    Int.cast_pos.mpr (reported.shown orientation).width_pos
  have hh : (0 : ℚ) < (reported.shown orientation).height :=
    Int.cast_pos.mpr (reported.shown orientation).height_pos
  have hcast : (4 : ℚ) * (reported.shown orientation).width =
      3 * (reported.shown orientation).height := by
    exact_mod_cast hshape
  have hsame := mul_fitScale_of_same_shape
    (W := ((views.layout.right - views.layout.left : Int) : ℚ))
    (H := ((views.layout.bottom - views.layout.top : Int) : ℚ))
    (show (0 : ℚ) < 240 by norm_num) (show (0 : ℚ) < 320 by norm_num) hw hh
    (by linarith)
  obtain ⟨hnearX, hnearY⟩ := views.child_near_fit
  rw [drawnAt_onClick]
  simp only [hsame.1, hsame.2]
  exact ⟨scaled_near hx hx' hnearX, scaled_near hy hy' hnearY⟩

/-! ## Where they do not -/

/-- A layout of `240 k` by `320 k`, in which the overlay's scale is `k`. -/
def large (source : Src) (orientation : Orientation) (reported : ReportedSize)
    (k : Nat) (hk : 0 < k) : LaidOut source orientation reported where
  preview :=
    { (CameraSourcePreview.new : CameraSourcePreview Src) with
      mCameraSource := some source }
  overlay := FaceLandmarksOverlayView.new (240 * k) (320 * k)
  layout :=
    { left := 0, top := 0, right := 240 * k, bottom := 320 * k
      orientation := orientation, previewSize := some reported.toSize }
  attempt := .started
  source_eq := rfl
  orientation_eq := rfl
  previewSize_eq := rfl
  width_pos := by
    show (0 : Int) < 240 * k - 0
    omega
  height_pos := by
    show (0 : Int) < 320 * k - 0
    omega
  overlay_width := (sub_zero _).symm
  overlay_height := (sub_zero _).symm

theorem large_scale {k : Nat} :
    fitScale (((240 * k : Int) : ℚ)) ((320 * k : Int) : ℚ) 240 320 = k := by
  rw [fitScale]
  push_cast
  rw [mul_div_cancel_left₀ _ (by norm_num), mul_div_cancel_left₀ _ (by norm_num),
    min_self]

/-- In the large layout the exact fit of the shown size is near the whole
layout, if the views agree there. -/
theorem fit_near_large {k : Nat} (hk : 0 < k)
    (hagree : (large source orientation reported k hk).Agree) :
    let shown := reported.shown orientation
    let scale := fitScale ((240 * k : Int) : ℚ) ((320 * k : Int) : ℚ)
      shown.width shown.height
    |240 * k - shown.width * scale| < 2 * shown.tolerance ∧
      |320 * k - shown.height * scale| < 2 * shown.tolerance := by
  intro shown scale
  have hwidth : (large source orientation reported k hk).layout.right -
      (large source orientation reported k hk).layout.left = 240 * k :=
    sub_zero _
  have hheight : (large source orientation reported k hk).layout.bottom -
      (large source orientation reported k hk).layout.top = 320 * k :=
    sub_zero _
  have hdrawn := agree_iff _ |>.mp hagree ⟨1, 1⟩ zero_le_one le_rfl
    zero_le_one le_rfl
  rw [drawnAt_onClick] at hdrawn
  simp only [hwidth, hheight, large_scale, one_mul] at hdrawn
  have hchild := (large source orientation reported k hk).child_near_fit
  simp only [hwidth, hheight] at hchild
  obtain ⟨hdrawnX, hdrawnY⟩ := hdrawn
  obtain ⟨hchildX, hchildY⟩ := hchild
  rw [abs_lt] at hdrawnX hdrawnY hchildX hchildY
  constructor
  · rw [abs_lt]
    constructor <;> linarith
  · rw [abs_lt]
    constructor <;> linarith

/-- If a scale takes the sides `w` and `h` near `240 k` and `320 k`, the
difference in shape is small against `k`. -/
theorem shape_difference_lt {k w h scale tolerance : ℚ} (hk : 0 ≤ k)
    (hw : 0 < w) (hh : 0 < h) (hwidth : |240 * k - w * scale| < tolerance)
    (hheight : |320 * k - h * scale| < tolerance) :
    k * |240 * h - 320 * w| < tolerance * (w + h) := by
  have hcross : k * (240 * h - 320 * w) =
      h * (240 * k - w * scale) - w * (320 * k - h * scale) := by
    ring
  calc k * |240 * h - 320 * w|
      = |h * (240 * k - w * scale) - w * (320 * k - h * scale)| := by
        rw [← hcross, abs_mul, abs_of_nonneg hk]
    _ ≤ |h * (240 * k - w * scale)| + |w * (320 * k - h * scale)| :=
        abs_sub _ _
    _ = h * |240 * k - w * scale| + w * |320 * k - h * scale| := by
        rw [abs_mul, abs_mul, abs_of_pos hh, abs_of_pos hw]
    _ < h * tolerance + w * tolerance :=
        add_lt_add (mul_lt_mul_of_pos_left hwidth hh)
          (mul_lt_mul_of_pos_left hheight hw)
    _ = tolerance * (w + h) := by ring

/-- Views that agree in every layout have a shown size of the shape of the
constants: a difference in shape grows with the layout. -/
theorem shape_of_agree
    (hagree : ∀ views : LaidOut source orientation reported, views.Agree) :
    4 * (reported.shown orientation).width =
      3 * (reported.shown orientation).height := by
  by_contra hshape
  let shown := reported.shown orientation
  have hw : (0 : ℚ) < shown.width := Int.cast_pos.mpr shown.width_pos
  have hh : (0 : ℚ) < shown.height := Int.cast_pos.mpr shown.height_pos
  have htolerance : 0 < shown.tolerance := by
    unfold ReportedSize.tolerance
    positivity
  -- A layout so large that the gap in shape exceeds twice the tolerance.
  obtain ⟨k, hk⟩ :=
    exists_nat_gt (2 * shown.tolerance * (shown.width + shown.height))
  have hkpos : (0 : ℚ) < k := lt_trans (by positivity) hk
  obtain ⟨hnearX, hnearY⟩ :=
    fit_near_large (Nat.cast_pos.mp hkpos) (hagree _)
  have hsmall := shape_difference_lt hkpos.le hw hh hnearX hnearY
  have hgap : (1 : ℚ) ≤ |240 * (shown.height : ℚ) - 320 * shown.width| := by
    have hne : 240 * shown.height - 320 * shown.width ≠ 0 := by
      intro hzero
      apply hshape
      show 4 * shown.width = 3 * shown.height
      omega
    exact_mod_cast Int.one_le_abs hne
  have hlarge : (k : ℚ) ≤
      k * |240 * (shown.height : ℚ) - 320 * shown.width| :=
    le_mul_of_one_le_right hkpos.le hgap
  linarith

end LaidOut

/-- Overlay and preview agree in every layout exactly when the reported size,
after the portrait swap, has the shape 3 : 4 of the constants. -/
theorem overlay_agrees_iff {Src : Type} (source : Src)
    (orientation : Orientation) (reported : ReportedSize) :
    (∀ views : LaidOut source orientation reported, views.Agree) ↔
      4 * (reported.shown orientation).width =
        3 * (reported.shown orientation).height :=
  ⟨LaidOut.shape_of_agree, fun hshape views => views.agree_of_shape hshape⟩

/-- The size the activity asks for. -/
def requestedSize : ReportedSize where
  width := 320
  height := 240
  width_pos := by decide
  height_pos := by decide

/-- In landscape, with the very size the activity asks for, in a layout of 480 by
640: the lower right corner of the picture is drawn at `(480, 640)` and shown at
`(480, 360)`. -/
theorem landscape_overlay_misses_preview :
    let views := LaidOut.large () .landscape requestedSize 2 (by decide)
    (onClick views.overlay).drawnAt ⟨1, 1⟩ = ⟨480, 640⟩ ∧
      views.child = ⟨480, 360⟩ ∧ ¬ views.Agree := by
  intro views
  have hdrawn : (onClick views.overlay).drawnAt ⟨1, 1⟩ = ⟨480, 640⟩ := by
    decide +kernel
  have hchild : views.child = ⟨480, 360⟩ := by
    decide +kernel
  refine ⟨hdrawn, hchild, ?_⟩
  intro hagree
  have hnear := views.agree_iff.mp hagree ⟨1, 1⟩ zero_le_one le_rfl zero_le_one
    le_rfl
  rw [hdrawn, hchild] at hnear
  have hheight := hnear.2
  norm_num [ReportedSize.tolerance, ReportedSize.shown, requestedSize,
    CameraSourcePreview.isPortraitMode] at hheight

end View
end ImportDlibDemo
