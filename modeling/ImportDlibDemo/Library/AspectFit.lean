import ImportDlibDemo.Library.Truncation

/-!
# Fitting a rectangle into a box

Two ways to fit a `w` by `h` rectangle into a `W` by `H` box: by the smaller of
the two scales, exactly, and by trying the full width first, with truncated
results.  The truncated fit stays within a pixel of the exact one, except that
where the truncated height just equals the box's, the width may keep up to one
pixel of height in excess.  It fills one side of the box and keeps the shape of
the rectangle up to one unit.
-/

namespace ImportDlibDemo
namespace Library
namespace AspectFit

open Truncation

variable {K : Type*} [Field K] [LinearOrder K] [IsStrictOrderedRing K]

/-- The scale that fits a `w` by `h` rectangle inside a `W` by `H` box. -/
def fitScale (W H w h : K) : K :=
  min (W / w) (H / h)

section FitScale

variable {W H w h : K}

/-- The fit depends on the shape of the rectangle only: rectangles of one shape
are drawn with the same sides. -/
theorem mul_fitScale_of_same_shape {w' h' : K} (hw : 0 < w) (hh : 0 < h)
    (hw' : 0 < w') (hh' : 0 < h') (hshape : w * h' = w' * h) :
    w * fitScale W H w h = w' * fitScale W H w' h' ∧
      h * fitScale W H w h = h' * fitScale W H w' h' := by
  have hwidth : w * (H / h) = w' * (H / h') := by
    field_simp
    linear_combination H * hshape
  have hheight : h * (W / w) = h' * (W / w') := by
    field_simp
    linear_combination (-W) * hshape
  constructor
  · rw [fitScale, fitScale, mul_min_of_nonneg _ _ hw.le,
      mul_min_of_nonneg _ _ hw'.le, hwidth, mul_div_cancel₀ W hw.ne',
      mul_div_cancel₀ W hw'.ne']
  · rw [fitScale, fitScale, mul_min_of_nonneg _ _ hh.le,
      mul_min_of_nonneg _ _ hh'.le, hheight, mul_div_cancel₀ H hh.ne',
      mul_div_cancel₀ H hh'.ne']

theorem fitScale_pos (hW : 0 < W) (hH : 0 < H) (hw : 0 < w) (hh : 0 < h) :
    0 < fitScale W H w h :=
  lt_min (div_pos hW hw) (div_pos hH hh)

/-- The fitted rectangle lies inside the box. -/
theorem mul_fitScale_le (hw : 0 < w) (hh : 0 < h) :
    w * fitScale W H w h ≤ W ∧ h * fitScale W H w h ≤ H := by
  constructor
  · rw [← le_div_iff₀' hw]
    exact min_le_left _ _
  · rw [← le_div_iff₀' hh]
    exact min_le_right _ _

end FitScale

variable [FloorRing K]

/-- Fit the width, and fit the height instead when the truncated height does
not fit. -/
def fitTruncated (W H : Int) (w h : K) : Int × Int :=
  let height := truncate ((W : K) / w * h)
  if height > H then (truncate ((H : K) / h * w), H) else (W, height)

section FitTruncated

variable {W H : Int} {w h : K}

/-- The two results of the truncated fit: the full width with the height rounded
down, which fits; or the full height with the width rounded down, and then the
exact height for the full width does not fit. -/
theorem fitTruncated_cases (hW : 0 < W) (hH : 0 < H) (hw : 0 < w) (hh : 0 < h) :
    (fitTruncated W H w h = (W, ⌊(W : K) / w * h⌋) ∧
      ⌊(W : K) / w * h⌋ ≤ H) ∨
    (fitTruncated W H w h = (⌊(H : K) / h * w⌋, H) ∧
      (H : K) < W / w * h) := by
  have hcastW : (0 : K) < W := Int.cast_pos.mpr hW
  have hcastH : (0 : K) < H := Int.cast_pos.mpr hH
  have hheight : truncate ((W : K) / w * h) = ⌊(W : K) / w * h⌋ :=
    truncate_of_nonneg (by positivity)
  have hwidth : truncate ((H : K) / h * w) = ⌊(H : K) / h * w⌋ :=
    truncate_of_nonneg (by positivity)
  by_cases hbranch : truncate ((W : K) / w * h) > H
  · right
    rw [fitTruncated, if_pos hbranch, hwidth]
    refine ⟨rfl, ?_⟩
    rw [hheight] at hbranch
    calc (H : K) < ⌊(W : K) / w * h⌋ := Int.cast_lt.mpr hbranch
      _ ≤ (W : K) / w * h := Int.floor_le _
  · left
    rw [fitTruncated, if_neg hbranch, hheight]
    refine ⟨rfl, ?_⟩
    rw [hheight] at hbranch
    exact not_lt.mp hbranch

/-- The truncated fit stays inside the box and fills one of its sides. -/
theorem fitTruncated_inside (hW : 0 < W) (hH : 0 < H) (hw : 0 < w)
    (hh : 0 < h) :
    (0 ≤ (fitTruncated W H w h).1 ∧ (fitTruncated W H w h).1 ≤ W) ∧
      (0 ≤ (fitTruncated W H w h).2 ∧ (fitTruncated W H w h).2 ≤ H) ∧
        ((fitTruncated W H w h).1 = W ∨ (fitTruncated W H w h).2 = H) := by
  have hcastW : (0 : K) < W := Int.cast_pos.mpr hW
  have hcastH : (0 : K) < H := Int.cast_pos.mpr hH
  rcases fitTruncated_cases hW hH hw hh with ⟨hfit, hfits⟩ | ⟨hfit, hover⟩
  · rw [hfit]
    have hheight : 0 ≤ ⌊(W : K) / w * h⌋ := Int.floor_nonneg.mpr (by positivity)
    exact ⟨⟨hW.le, le_rfl⟩, ⟨hheight, hfits⟩, Or.inl rfl⟩
  · rw [hfit]
    have hwidth : 0 ≤ ⌊(H : K) / h * w⌋ := Int.floor_nonneg.mpr (by positivity)
    -- The full height is too low for the full width.
    have hbelow : (H : K) / h * w ≤ W := by
      rw [← le_div_iff₀ hw, div_le_iff₀ hh]
      exact hover.le
    have hfloor : ⌊(H : K) / h * w⌋ ≤ W := by
      exact_mod_cast (Int.floor_le _).trans hbelow
    exact ⟨⟨hwidth, hfloor⟩, ⟨hH.le, le_rfl⟩, Or.inr rfl⟩

/-- Rounding a side down moves the shape by less than the other side. -/
theorem abs_floor_mul_sub_lt {q a : K} (ha : 0 < a) : |⌊q⌋ * a - q * a| < a := by
  rw [← sub_mul, abs_mul, abs_of_pos ha, abs_sub_comm, Int.self_sub_floor,
    Int.abs_fract]
  calc Int.fract q * a < 1 * a := mul_lt_mul_of_pos_right (Int.fract_lt_one q) ha
    _ = a := one_mul a

/-- The truncated fit keeps the shape of the rectangle up to one unit. -/
theorem fitTruncated_shape (hW : 0 < W) (hH : 0 < H) (hw : 0 < w)
    (hh : 0 < h) :
    |((fitTruncated W H w h).1 : K) * h - (fitTruncated W H w h).2 * w| <
      max w h := by
  rcases fitTruncated_cases hW hH hw hh with ⟨hfit, _⟩ | ⟨hfit, _⟩
  · rw [hfit]
    have hexact : (W : K) * h = W / w * h * w := by
      field_simp
    rw [hexact, abs_sub_comm]
    exact (abs_floor_mul_sub_lt hw).trans_le (le_max_left w h)
  · rw [hfit]
    have hexact : (H : K) * w = H / h * w * h := by
      field_simp
    rw [hexact]
    exact (abs_floor_mul_sub_lt hh).trans_le (le_max_right w h)

/-- Where the width decides, the truncated fit keeps the full width and drops
less than one row. -/
theorem fitTruncated_near_of_wide (hW : 0 < W) (hH : 0 < H) (hw : 0 < w)
    (hh : 0 < h) (hwide : (W : K) / w ≤ H / h) :
    (fitTruncated W H w h).1 = W ∧
      |h * fitScale (W : K) H w h - (fitTruncated W H w h).2| < 1 := by
  rcases fitTruncated_cases hW hH hw hh with ⟨hfit, _⟩ | ⟨_, hover⟩
  · rw [hfit, fitScale, min_eq_left hwide, mul_comm h, Int.self_sub_floor,
      Int.abs_fract]
    exact ⟨rfl, Int.fract_lt_one _⟩
  · exact absurd hover (not_lt.mpr ((le_div_iff₀ hh).mp hwide))

/-- Where the height decides, the truncated fit keeps the full height.  The
width is truncated, or keeps its excess over the exact one where the height
before truncation was less than one row too tall. -/
theorem fitTruncated_near_of_tall (hW : 0 < W) (hH : 0 < H) (hw : 0 < w)
    (hh : 0 < h) (htall : (H : K) / h < W / w) :
    |w * fitScale (W : K) H w h - (fitTruncated W H w h).1| < max 1 (w / h) ∧
      (fitTruncated W H w h).2 = H := by
  have hover : (H : K) < W / w * h := (div_lt_iff₀ hh).mp htall
  rw [fitScale, min_eq_right htall.le, mul_comm w]
  rcases fitTruncated_cases hW hH hw hh with ⟨hfit, hfits⟩ | ⟨hfit, _⟩
  · -- The narrow band: the height is too tall by a fraction only.
    have hfloor : ⌊(W : K) / w * h⌋ = H :=
      le_antisymm hfits (Int.le_floor.mpr hover.le)
    rw [hfit]
    refine ⟨lt_max_of_lt_right ?_, hfloor⟩
    have hband : (W : K) / w * h < H + 1 := by
      have hlt := Int.lt_floor_add_one ((W : K) / w * h)
      rwa [hfloor] at hlt
    have hbelow : (H : K) / h * w < W := (lt_div_iff₀ hw).mp htall
    have habove : (W : K) < (H + 1) / h * w := by
      rw [div_mul_eq_mul_div, lt_div_iff₀ hh]
      rwa [div_mul_eq_mul_div, div_lt_iff₀ hw] at hband
    rw [abs_sub_comm, abs_of_pos (sub_pos.mpr hbelow)]
    -- One more row is `w / h` wide.
    have hsplit : ((H : K) + 1) / h * w = H / h * w + w / h := by
      ring
    linarith
  · rw [hfit, Int.self_sub_floor, Int.abs_fract]
    exact ⟨lt_max_of_lt_left (Int.fract_lt_one _), rfl⟩

/-- The truncated fit against the exact one: the height is short by less than
one, the width is off by less than one or by less than the width of one row. -/
theorem fitTruncated_near (hW : 0 < W) (hH : 0 < H) (hw : 0 < w) (hh : 0 < h) :
    |w * fitScale (W : K) H w h - (fitTruncated W H w h).1| < max 1 (w / h) ∧
      |h * fitScale (W : K) H w h - (fitTruncated W H w h).2| < 1 := by
  rcases le_or_gt ((W : K) / w) (H / h) with hwide | htall
  · obtain ⟨hwidth, hheight⟩ := fitTruncated_near_of_wide hW hH hw hh hwide
    refine ⟨lt_max_of_lt_left ?_, hheight⟩
    rw [hwidth, fitScale, min_eq_left hwide, mul_div_cancel₀ _ hw.ne']
    simp
  · obtain ⟨hwidth, hheight⟩ := fitTruncated_near_of_tall hW hH hw hh htall
    refine ⟨hwidth, ?_⟩
    rw [hheight, fitScale, min_eq_right htall.le, mul_div_cancel₀ _ hh.ne']
    simp

end FitTruncated

end AspectFit
end Library
end ImportDlibDemo
