import ImportDlibDemo.Library.BinaryFloat
import ImportDlibDemo.Library.PlaneBox

/-!
# `android.graphics`

The parts of `Matrix`, `Rect` and `Bitmap` the detectors use, in exact
arithmetic.  A bitmap made from a camera frame is described by where each point
of the frame appears in it.  In front are the conversions of Java that coordinates
go through.
-/

namespace ImportDlibDemo
namespace Android

open Library
open Library.PlaneBox
open Library.Truncation

/-! ## From `float` to `int` -/

/-- The `int` of a `float` whose fraction is removed as `whole` says: a NaN becomes
zero, and what is too large the greatest or the least `int`. -/
def floatToInt {format : FloatFormat} (whole : ℚ → Int) :
    BinaryFloat format → Int
  | .nan => 0
  | .infinity negative => if negative then -2 ^ 31 else 2 ^ 31 - 1
  | .finite x => max (-2 ^ 31) (min (2 ^ 31 - 1) (whole x.value))

/-- Coordinates as Java computes with them: `(int)` of one, and what an `int` keeps
of a sum. -/
class Coordinate (R : Type*) where
  toInt : R → Int
  keep : Int → Int

/-- Exact numbers have no bounds. -/
instance {R : Type*} [Ring R] [LinearOrder R] [FloorRing R] : Coordinate R where
  toInt := truncate
  keep := id

/-- An `int` has two's complement on 32 bits. -/
instance {format : FloatFormat} : Coordinate (BinaryFloat format) where
  toInt := floatToInt truncate
  keep := fun value => value.bmod (2 ^ 32)

/-! ## Matrices and bitmaps -/

/-- The affine part of `android.graphics.Matrix`: `x` goes to
`scaleX * x + skewX * y + transX`, and `y` likewise. -/
structure Matrix where
  scaleX : ℚ
  skewX : ℚ
  transX : ℚ
  skewY : ℚ
  scaleY : ℚ
  transY : ℚ
  deriving DecidableEq, Repr

/-- The angles a frame can be rotated by. -/
inductive Rotation
  | rotation0
  | rotation90
  | rotation180
  | rotation270
  deriving DecidableEq, Repr

namespace Matrix

/-- `new Matrix()`. -/
def new : Matrix :=
  ⟨1, 0, 0, 0, 1, 0⟩

/-- `mapPoints` on one point. -/
def mapPoint (m : Matrix) (p : Point ℚ) : Point ℚ where
  x := m.scaleX * p.x + m.skewX * p.y + m.transX
  y := m.skewY * p.x + m.scaleY * p.y + m.transY

/-- `postConcat`: apply `m` first and `other` behind it. -/
def postConcat (m other : Matrix) : Matrix where
  scaleX := other.scaleX * m.scaleX + other.skewX * m.skewY
  skewX := other.scaleX * m.skewX + other.skewX * m.scaleY
  transX := other.scaleX * m.transX + other.skewX * m.transY + other.transX
  skewY := other.skewY * m.scaleX + other.scaleY * m.skewY
  scaleY := other.skewY * m.skewX + other.scaleY * m.scaleY
  transY := other.skewY * m.transX + other.scaleY * m.transY + other.transY

/-- The rotation about the origin; the `y` axis points down, so it turns
clockwise. -/
def rotation : Rotation → Matrix
  | .rotation0 => ⟨1, 0, 0, 0, 1, 0⟩
  | .rotation90 => ⟨0, -1, 0, 1, 0, 0⟩
  | .rotation180 => ⟨-1, 0, 0, 0, -1, 0⟩
  | .rotation270 => ⟨0, 1, 0, -1, 0, 0⟩

/-- `postRotate`. -/
def postRotate (m : Matrix) (angle : Rotation) : Matrix :=
  m.postConcat (rotation angle)

theorem postRotate_rotation0 (m : Matrix) :
    m.postRotate .rotation0 = m := by
  simp [postRotate, postConcat, rotation]

/-- `postScale`. -/
def postScale (m : Matrix) (sx sy : ℚ) : Matrix :=
  m.postConcat ⟨sx, 0, 0, 0, sy, 0⟩

/-- `mapRect`: the smallest box around the four mapped corners. -/
def mapRect (m : Matrix) (rect : Box ℚ) : Box ℚ :=
  let p := m.mapPoint ⟨rect.left, rect.top⟩
  let q := m.mapPoint ⟨rect.right, rect.top⟩
  let r := m.mapPoint ⟨rect.right, rect.bottom⟩
  let s := m.mapPoint ⟨rect.left, rect.bottom⟩
  { left := min (min p.x q.x) (min r.x s.x)
    top := min (min p.y q.y) (min r.y s.y)
    right := max (max p.x q.x) (max r.x s.x)
    bottom := max (max p.y q.y) (max r.y s.y) }

end Matrix

/-- A bitmap made from a camera frame: its size, and the place where it shows
each point of the frame. -/
structure Bitmap where
  width : Nat
  height : Nat
  place : Point ℚ → Point ℚ

/-- `Bitmap.createBitmap(source, 0, 0, source.getWidth(), source.getHeight(),
m, false)`: the mapped source, moved to the origin. -/
def createBitmap (source : Bitmap) (m : Matrix) : Bitmap :=
  let deviceR := m.mapRect ⟨0, 0, source.width, source.height⟩
  { width := ⌊deviceR.right - deviceR.left + 1 / 2⌋.toNat
    height := ⌊deviceR.bottom - deviceR.top + 1 / 2⌋.toNat
    place := fun p =>
      let q := m.mapPoint (source.place p)
      ⟨q.x - deviceR.left, q.y - deviceR.top⟩ }

/-- `android.graphics.Rect`. -/
structure Rect where
  left : Int
  top : Int
  right : Int
  bottom : Int
  deriving DecidableEq, Repr

namespace Rect

def width (rect : Rect) : Int :=
  rect.right - rect.left

def height (rect : Rect) : Int :=
  rect.bottom - rect.top

/-- Change the sides. -/
def map (rect : Rect) (f : Int → Int) : Rect where
  left := f rect.left
  top := f rect.top
  right := f rect.right
  bottom := f rect.bottom

/-- `inset`. -/
def inset (rect : Rect) (dx dy : Int) : Rect where
  left := rect.left + dx
  top := rect.top + dy
  right := rect.right - dx
  bottom := rect.bottom - dy

/-- `offset`. -/
def offset (rect : Rect) (dx dy : Int) : Rect where
  left := rect.left + dx
  top := rect.top + dy
  right := rect.right + dx
  bottom := rect.bottom + dy

end Rect

end Android
end ImportDlibDemo
