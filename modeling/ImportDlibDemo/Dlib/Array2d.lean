import Mathlib.Data.Nat.Basic

/-!
# `dlib::array2d` and `dlib::rgb_pixel`

The parts of `array2d` the native code uses: the size, `set_size`, and reading
and writing one cell.  The row-major store is a function of row and column.
-/

namespace ImportDlibDemo
namespace Dlib

/-- `dlib::rgb_pixel`. -/
structure RgbPixel where
  red : UInt8
  green : UInt8
  blue : UInt8
  deriving DecidableEq, Repr, Inhabited

/-- `dlib::array2d<T>`: `nr` rows of `nc` cells. -/
structure Array2d (T : Type*) where
  nr : Nat
  nc : Nat
  cell : Nat → Nat → T

namespace Array2d

variable {T : Type*}

/-- A default-constructed array has no cells. -/
def new [Inhabited T] : Array2d T where
  nr := 0
  nc := 0
  cell := fun _ _ => default

/-- `set_size`: nothing when the size is already right; otherwise fresh cells,
whose contents are indeterminate in C++ and `default` here. -/
def setSize [Inhabited T] (rows cols : Nat) (array : Array2d T) : Array2d T :=
  if array.nc = cols ∧ array.nr = rows then array
  else { nr := rows, nc := cols, cell := fun _ _ => default }

/-- `array[row][column] = value`. -/
def set (row column : Nat) (value : T) (array : Array2d T) : Array2d T :=
  { array with
    cell := fun r c => if r = row ∧ c = column then value else array.cell r c }

@[simp] theorem setSize_nr [Inhabited T] (rows cols : Nat) (array : Array2d T) :
    (array.setSize rows cols).nr = rows := by
  unfold setSize
  split
  · next hsame => exact hsame.2
  · rfl

@[simp] theorem setSize_nc [Inhabited T] (rows cols : Nat) (array : Array2d T) :
    (array.setSize rows cols).nc = cols := by
  unfold setSize
  split
  · next hsame => exact hsame.1
  · rfl

@[simp] theorem set_nr (row column : Nat) (value : T) (array : Array2d T) :
    (array.set row column value).nr = array.nr := rfl

@[simp] theorem set_nc (row column : Nat) (value : T) (array : Array2d T) :
    (array.set row column value).nc = array.nc := rfl

@[simp] theorem set_cell_self (row column : Nat) (value : T)
    (array : Array2d T) :
    (array.set row column value).cell row column = value := by
  simp [set]

theorem set_cell_of_ne {row column r c : Nat} (value : T) (array : Array2d T)
    (hne : ¬ (r = row ∧ c = column)) :
    (array.set row column value).cell r c = array.cell r c := by
  simp only [set]
  rw [if_neg hne]

end Array2d
end Dlib
end ImportDlibDemo
