import Mathlib.Data.List.Basic

/-!
# The messages of `messages.proto`

What the native library and Java exchange as byte arrays.  All fields are
`float`s, whose type is a parameter.
-/

namespace ImportDlibDemo
namespace NativeLib

/-- `Landmark`. -/
structure Landmark (F : Type) where
  x : F
  y : F
  deriving DecidableEq, Repr

/-- `RectF`. -/
structure RectF (F : Type) where
  left : F
  top : F
  right : F
  bottom : F
  deriving DecidableEq, Repr

/-- `Face`. -/
structure Face (F : Type) where
  bound : RectF F
  landmarks : List (Landmark F)
  deriving DecidableEq, Repr

variable {F G : Type}

/-- The message with every field changed by `f`. -/
def Landmark.map (f : F → G) (landmark : Landmark F) : Landmark G where
  x := f landmark.x
  y := f landmark.y

/-- The message with every field changed by `f`. -/
def RectF.map (f : F → G) (rect : RectF F) : RectF G where
  left := f rect.left
  top := f rect.top
  right := f rect.right
  bottom := f rect.bottom

/-- The message with every field changed by `f`. -/
def Face.map (f : F → G) (face : Face F) : Face G where
  bound := face.bound.map f
  landmarks := face.landmarks.map (Landmark.map f)

end NativeLib
end ImportDlibDemo
