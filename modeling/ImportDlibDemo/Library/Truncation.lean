import Mathlib.Algebra.Order.Floor.Ring
import Mathlib.Tactic

/-!
# Truncation toward zero

The cast of a real quantity to an integer that drops the fraction, as C and
Java casts do.  On nonnegative values it is the floor.

Division of integers drops the fraction, too.  Division by a positive `n` puts
`n` neighbouring integers into each cell, but for the one at zero, which reaches
to both sides.  `middle n q` is the integer in the middle of cell `q`, rounded
away from zero.
-/

namespace ImportDlibDemo
namespace Library
namespace Truncation

/-! ## Numbers -/

section Numbers

variable {α : Type*} [Ring α] [LinearOrder α] [FloorRing α]

/-- Drop the fraction: the floor of a nonnegative value, the ceiling of a
negative one. -/
def truncate (x : α) : Int :=
  if 0 ≤ x then ⌊x⌋ else ⌈x⌉

theorem truncate_of_nonneg {x : α} (hx : 0 ≤ x) : truncate x = ⌊x⌋ := by
  rw [truncate, if_pos hx]

theorem truncate_intCast [IsStrictOrderedRing α] (n : Int) :
    truncate (n : α) = n := by
  unfold truncate
  split
  · exact Int.floor_intCast n
  · exact Int.ceil_intCast n

end Numbers

/-! ## Cells of a line -/

/-- The integer in the middle of a cell. -/
def middle (n q : Int) : Int :=
  q * n + if 0 ≤ q then n / 2 else -(n / 2)

variable {n : Int}

/-- A cell behind zero begins at its multiple. -/
theorem tdiv_eq_iff_of_pos (hn : 0 < n) {q : Int} (hq : 0 < q) {a : Int} :
    a.tdiv n = q ↔ q * n ≤ a ∧ a < q * n + n := by
  by_cases ha : 0 ≤ a
  · rw [Int.tdiv_eq_ediv_of_nonneg ha]
    exact Int.ediv_eq_iff_of_pos hn
  · -- Below zero there are only cells that are not behind it.
    have hleft : a.tdiv n ≤ 0 := by
      rw [← neg_neg a, Int.neg_tdiv]
      have hback : 0 ≤ (-a).tdiv n := Int.tdiv_nonneg (by omega) hn.le
      omega
    have hright : 0 < q * n := Int.mul_pos hq hn
    constructor
    · intro hcell
      omega
    · rintro ⟨hlow, _⟩
      omega

/-- The middle of a cell is in it. -/
theorem tdiv_middle (hn : 0 < n) (q : Int) : (middle n q).tdiv n = q := by
  have hnonneg : ∀ q, 0 ≤ q → (q * n + n / 2).tdiv n = q := by
    intro q hq
    have hcell : 0 ≤ q * n := Int.mul_nonneg hq hn.le
    rw [Int.tdiv_eq_ediv_of_nonneg (by omega), Int.ediv_eq_iff_of_pos hn]
    omega
  unfold middle
  split
  · next hq => exact hnonneg q hq
  · next hq =>
      have hopposite : q * n + -(n / 2) = -(-q * n + n / 2) := by ring
      rw [hopposite, Int.neg_tdiv, hnonneg (-q) (by omega), neg_neg]

/-- Middles come in the order of their cells. -/
theorem middle_strictMono (hn : 0 < n) : StrictMono (middle n) := by
  intro q r hqr
  have hstep : q * n + n ≤ r * n := by
    have hnext : (q + 1) * n ≤ r * n :=
      Int.mul_le_mul_of_nonneg_right (by omega) hn.le
    rwa [add_mul, one_mul] at hnext
  unfold middle
  split <;> split <;> omega

end Truncation
end Library
end ImportDlibDemo
