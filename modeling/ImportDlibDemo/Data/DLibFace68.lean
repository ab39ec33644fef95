import ImportDlibDemo.NativeLib.Messages

/-!
# `DLibFace68`

The face the Java side works with: a bound and a list of landmarks.  The
arithmetic of the coordinates is a parameter, so the model covers `float`s as
well as exact numbers.
-/

namespace ImportDlibDemo
namespace Data

/-- `android.graphics.RectF`. -/
structure RectF (K : Type) where
  left : K
  top : K
  right : K
  bottom : K
  deriving DecidableEq, Repr

/-- `DLibFace.Landmark`. -/
structure Landmark (K : Type) where
  x : K
  y : K
  deriving DecidableEq, Repr

/-- `DLibFace68`. -/
structure DLibFace68 (K : Type) where
  mBound : RectF K
  mLandmarks : List (Landmark K)
  deriving DecidableEq, Repr

namespace DLibFace68

variable {K : Type}

/-- `new DLibFace68(rawFace)`. -/
def ofMessage (rawFace : NativeLib.Face K) : DLibFace68 K where
  mBound :=
    { left := rawFace.bound.left
      top := rawFace.bound.top
      right := rawFace.bound.right
      bottom := rawFace.bound.bottom }
  mLandmarks :=
    rawFace.landmarks.map fun rawLandmark =>
      { x := rawLandmark.x, y := rawLandmark.y }

/-- `new DLibFace68(other, scaleX, scaleY)`. -/
def scaled [Mul K] (other : DLibFace68 K) (scaleX scaleY : K) : DLibFace68 K where
  mBound :=
    { left := other.mBound.left * scaleX
      top := other.mBound.top * scaleY
      right := other.mBound.right * scaleX
      bottom := other.mBound.bottom * scaleY }
  mLandmarks :=
    other.mLandmarks.map fun landmark =>
      { x := landmark.x * scaleX, y := landmark.y * scaleY }

end DLibFace68

end Data
end ImportDlibDemo
