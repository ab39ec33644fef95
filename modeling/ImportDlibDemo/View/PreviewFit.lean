import ImportDlibDemo.Library.AspectFit
import ImportDlibDemo.View.CameraSourcePreview

/-!
# How `onLayout` fits the preview

`onLayout` gives its child the truncated fit of the preview size in the layout:
inside the layout, as wide or as high as it, and of the preview's shape up to
one pixel of rounding.
-/

namespace ImportDlibDemo
namespace View

open Library.AspectFit

/-- A child of a layout of `layoutWidth` by `layoutHeight` that fits a preview
`size`: inside the layout, filling one of its sides, and of the shape of the
preview up to one pixel. -/
structure Size.FitsPreview (child size : Size) (layoutWidth layoutHeight : Int) :
    Prop where
  width : 0 ≤ child.width ∧ child.width ≤ layoutWidth
  height : 0 ≤ child.height ∧ child.height ≤ layoutHeight
  fills : child.width = layoutWidth ∨ child.height = layoutHeight
  shape : |child.width * size.height - child.height * size.width| <
    max size.width size.height

namespace CameraSourcePreview

/-- The child size of `onLayout` is the truncated fit. -/
theorem childSize_eq_fitTruncated (layoutWidth layoutHeight width height : Int) :
    ((childSize layoutWidth layoutHeight width height).width,
        (childSize layoutWidth layoutHeight width height).height) =
      fitTruncated layoutWidth layoutHeight (width : ℚ) (height : ℚ) := by
  rw [childSize, fitTruncated]
  split
  · rfl
  · rfl

theorem childSize_fitsPreview {layoutWidth layoutHeight : Int} {size : Size}
    (hlayoutWidth : 0 < layoutWidth) (hlayoutHeight : 0 < layoutHeight)
    (hwidth : 0 < size.width) (hheight : 0 < size.height) :
    (childSize layoutWidth layoutHeight size.width size.height).FitsPreview size
      layoutWidth layoutHeight := by
  have hw : (0 : ℚ) < size.width := Int.cast_pos.mpr hwidth
  have hh : (0 : ℚ) < size.height := Int.cast_pos.mpr hheight
  have hinside := fitTruncated_inside hlayoutWidth hlayoutHeight hw hh
  have hshape := fitTruncated_shape hlayoutWidth hlayoutHeight hw hh
  rw [← childSize_eq_fitTruncated] at hinside hshape
  obtain ⟨hchildWidth, hchildHeight, hfills⟩ := hinside
  exact ⟨hchildWidth, hchildHeight, hfills, by exact_mod_cast hshape⟩

/-- In a layout of positive size, with a preview of positive size after the
portrait swap, `onLayout` gives the child a size that fits the preview. -/
theorem onLayout_fitsPreview {Src : Type*} (view : CameraSourcePreview Src)
    (layout : LayoutCall) (attempt : Attempt)
    (hlayoutWidth : 0 < layout.right - layout.left)
    (hlayoutHeight : 0 < layout.bottom - layout.top)
    (hwidth : 0 < (previewSize view.mCameraSource layout.previewSize
      layout.orientation).width)
    (hheight : 0 < (previewSize view.mCameraSource layout.previewSize
      layout.orientation).height) :
    (onLayout layout attempt view).view.mSurfaceView.FitsPreview
      (previewSize view.mCameraSource layout.previewSize layout.orientation)
      (layout.right - layout.left) (layout.bottom - layout.top) := by
  rw [onLayout, startIfReadyLogged_mSurfaceView]
  exact childSize_fitsPreview hlayoutWidth hlayoutHeight hwidth hheight

/-- A view with a camera. -/
def openedPreview : CameraSourcePreview Nat :=
  { (new : CameraSourcePreview Nat) with mCameraSource := some 1 }

/-- A portrait layout of 100 by 101; the camera reports 640 by 480. -/
def portraitLayout : LayoutCall where
  left := 10
  top := 20
  right := 110
  bottom := 121
  orientation := .portrait
  previewSize := some ⟨640, 480⟩

/-- The whole width would be too high; the height leaves three quarters of a
column. -/
theorem onLayout_in_portrait :
    ((onLayout portraitLayout .started openedPreview).view.mSurfaceView).FitsPreview
      ⟨480, 640⟩ 100 101 :=
  onLayout_fitsPreview openedPreview portraitLayout .started (by decide) (by decide)
    (by decide) (by decide)

example :
    (onLayout portraitLayout .started openedPreview).view.mSurfaceView = ⟨75, 101⟩ := by
  decide +kernel

end CameraSourcePreview
end View
end ImportDlibDemo
