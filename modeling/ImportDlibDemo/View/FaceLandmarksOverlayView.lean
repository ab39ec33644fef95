import Mathlib.Data.Int.Cast.Basic
import ImportDlibDemo.Data.DLibFace68

/-!
# `FaceLandmarksOverlayView`

The overlay keeps the faces scaled to the preview size it knows when they
arrive, and draws them through one scale, the one that fits the preview into the
view.  The preview size thus enters twice: in `setFaces` and in
`setCameraPreviewSize`.
-/

namespace ImportDlibDemo
namespace View

open Data

/-- `FaceLandmarksOverlayView`, with the size the layout gave it. -/
structure FaceLandmarksOverlayView (K : Type) where
  width : Int
  height : Int
  mPreviewWidth : Int
  mPreviewHeight : Int
  mScaleFromPreviewToView : K
  mFaces : List (DLibFace68 K)

namespace FaceLandmarksOverlayView

variable {K : Type}

/-- A fresh overlay of the given size. -/
def new [One K] (width height : Int) : FaceLandmarksOverlayView K where
  width := width
  height := height
  mPreviewWidth := 0
  mPreviewHeight := 0
  mScaleFromPreviewToView := 1
  mFaces := []

/-- `setCameraPreviewSize`. -/
def setCameraPreviewSize [IntCast K] [Div K] [Min K] (width height : Int)
    (view : FaceLandmarksOverlayView K) : FaceLandmarksOverlayView K :=
  { view with
    mPreviewWidth := width
    mPreviewHeight := height
    mScaleFromPreviewToView :=
      min ((view.width : K) / (width : K)) ((view.height : K) / (height : K)) }

/-- `setFaces`. -/
def setFaces [IntCast K] [Mul K] (faces : List (DLibFace68 K))
    (view : FaceLandmarksOverlayView K) : FaceLandmarksOverlayView K :=
  { view with
    mFaces := faces.map fun face =>
      face.scaled (view.mPreviewWidth : K) (view.mPreviewHeight : K) }

/-- What `onDrawForeground` draws for one face: its bound and, for every
landmark, the centre of a circle. -/
structure Drawing (K : Type) where
  bound : RectF K
  circles : List (Landmark K)

/-- `onDrawForeground`: every face, through the render matrix that scales by
`mScaleFromPreviewToView`. -/
def onDrawForeground [Mul K] (view : FaceLandmarksOverlayView K) :
    List (Drawing K) :=
  let scale := view.mScaleFromPreviewToView
  view.mFaces.map fun face =>
    { bound :=
        { left := scale * face.mBound.left
          top := scale * face.mBound.top
          right := scale * face.mBound.right
          bottom := scale * face.mBound.bottom }
      circles := face.mLandmarks.map fun mark =>
        { x := scale * mark.x, y := scale * mark.y } }

@[simp] theorem setFaces_mFaces [IntCast K] [Mul K]
    (faces : List (DLibFace68 K)) (view : FaceLandmarksOverlayView K) :
    (view.setFaces faces).mFaces = faces.map fun face =>
      face.scaled (view.mPreviewWidth : K) (view.mPreviewHeight : K) := rfl

/-- Where a normalised point of a face is drawn, once the face has been set. -/
def drawnAt [IntCast K] [Mul K] (view : FaceLandmarksOverlayView K)
    (mark : Landmark K) : Landmark K where
  x := view.mScaleFromPreviewToView * (mark.x * (view.mPreviewWidth : K))
  y := view.mScaleFromPreviewToView * (mark.y * (view.mPreviewHeight : K))

/-- Setting faces and drawing them draws every landmark at its place, in
order. -/
theorem circles_of_setFaces [IntCast K] [Mul K] (faces : List (DLibFace68 K))
    (view : FaceLandmarksOverlayView K) :
    (view.setFaces faces).onDrawForeground.map Drawing.circles =
      faces.map fun face => face.mLandmarks.map view.drawnAt := by
  simp [onDrawForeground, setFaces, DLibFace68.scaled, drawnAt,
    Function.comp_def]

end FaceLandmarksOverlayView

end View
end ImportDlibDemo
