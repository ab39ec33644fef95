import ImportDlibDemo.Dlib.Models
import Mathlib.Order.Lattice
import Mathlib.Tactic

/-!
# Operations of `dlib::rectangle`

The sides of a rectangle belong to it, and one whose sides are the wrong way
round is empty.  Areas are exact: `unsigned long` holds those of all boxes that
come from an image.
-/

namespace ImportDlibDemo
namespace Dlib
namespace Rectangle

/-- `is_empty`. -/
def isEmpty (rect : Rectangle) : Bool :=
  rect.top > rect.bottom || rect.left > rect.right

/-- `width`. -/
def width (rect : Rectangle) : Nat :=
  if rect.isEmpty then 0 else (rect.right - rect.left + 1).toNat

/-- `height`. -/
def height (rect : Rectangle) : Nat :=
  if rect.isEmpty then 0 else (rect.bottom - rect.top + 1).toNat

/-- `area`. -/
def area (rect : Rectangle) : Nat :=
  rect.width * rect.height

/-- `operator+`: the smallest rectangle around both. -/
def add (a b : Rectangle) : Rectangle :=
  if b.isEmpty then a
  else if a.isEmpty then b
  else
    { left := min a.left b.left
      top := min a.top b.top
      right := max a.right b.right
      bottom := max a.bottom b.bottom }

/-- `rectangle(p)`. -/
def ofPoint (p : Point) : Rectangle :=
  ⟨p.x, p.y, p.x, p.y⟩

/-- `rectangle(p1, p2)`: the points are corners, in whatever order. -/
def ofPoints (p1 p2 : Point) : Rectangle :=
  (ofPoint p1).add (ofPoint p2)

/-- `tl_corner`. -/
def tlCorner (rect : Rectangle) : Point :=
  ⟨rect.left, rect.top⟩

/-- `br_corner`. -/
def brCorner (rect : Rectangle) : Point :=
  ⟨rect.right, rect.bottom⟩

/-- `intersect`. -/
def intersect (a b : Rectangle) : Rectangle where
  left := max a.left b.left
  top := max a.top b.top
  right := min a.right b.right
  bottom := min a.bottom b.bottom

/-- `contains`. -/
def contains (rect : Rectangle) (p : Point) : Bool :=
  !(p.x < rect.left || p.x > rect.right || p.y < rect.top || p.y > rect.bottom)

theorem contains_iff {rect : Rectangle} {p : Point} :
    rect.contains p = true ↔
      rect.left ≤ p.x ∧ p.x ≤ rect.right ∧ rect.top ≤ p.y ∧ p.y ≤ rect.bottom := by
  simp [contains, and_assoc]

theorem isEmpty_iff {rect : Rectangle} :
    rect.isEmpty = true ↔ rect.bottom < rect.top ∨ rect.right < rect.left := by
  simp [isEmpty]

theorem ofPoints_eq (p1 p2 : Point) :
    ofPoints p1 p2 =
      ⟨min p1.x p2.x, min p1.y p2.y, max p1.x p2.x, max p1.y p2.y⟩ := by
  simp [ofPoints, add, ofPoint, isEmpty]

/-- A rectangle is the one of its corners exactly when it is not empty. -/
theorem ofPoints_corners_eq_iff {rect : Rectangle} :
    ofPoints rect.tlCorner rect.brCorner = rect ↔ rect.isEmpty = false := by
  obtain ⟨left, top, right, bottom⟩ := rect
  rw [ofPoints_eq, Bool.eq_false_iff, ne_eq, isEmpty_iff]
  simp only [tlCorner, brCorner, mk.injEq, min_eq_left_iff, max_eq_right_iff]
  omega

/-- A rectangle with an area contains its corner. -/
theorem contains_corner {rect : Rectangle} (harea : rect.area ≠ 0) :
    rect.contains ⟨rect.left, rect.top⟩ = true := by
  have hsome : ¬ rect.isEmpty = true := by
    intro hempty
    apply harea
    rw [area, width, if_pos hempty, Nat.zero_mul]
  rw [isEmpty_iff] at hsome
  rw [contains_iff]
  simp only
  omega

theorem not_isEmpty_of_contains {rect : Rectangle} {p : Point}
    (hp : rect.contains p = true) : rect.isEmpty = false := by
  rw [contains_iff] at hp
  rw [Bool.eq_false_iff, ne_eq, isEmpty_iff]
  omega

/-- The points of the intersection are those in both. -/
theorem contains_intersect {a b : Rectangle} {p : Point} :
    (a.intersect b).contains p = true ↔
      a.contains p = true ∧ b.contains p = true := by
  simp only [contains_iff, intersect, max_le_iff, le_min_iff]
  tauto

theorem intersect_comm (a b : Rectangle) : a.intersect b = b.intersect a := by
  simp only [intersect, max_comm, min_comm]

/-- Around two rectangles that are not empty the order does not matter. -/
theorem add_comm_of_nonempty {a b : Rectangle} (ha : a.isEmpty = false)
    (hb : b.isEmpty = false) : a.add b = b.add a := by
  simp [add, ha, hb, min_comm, max_comm]

end Rectangle
end Dlib
end ImportDlibDemo
