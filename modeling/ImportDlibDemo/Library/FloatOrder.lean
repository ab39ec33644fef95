import ImportDlibDemo.Library.BinaryFloat
import Mathlib.Order.WithBot

/-!
# The order of floating-point numbers

Numbers are compared as C and Java compare them: a NaN with nothing, not even
itself, and the two zeros as equals.  What is left is the order of the extended
rationals, `x.extended`.

Rounding keeps the order of rationals (`nearest_monotone`), so the subtraction of
a finite number keeps that of floating-point numbers (`sub_le_sub_right`).
-/

namespace ImportDlibDemo
namespace Library

/-! ## Rounding keeps the order -/

theorem roundHalfEven_monotone : Monotone roundHalfEven := by
  intro x y hxy
  rcases (Int.floor_mono hxy).lt_or_eq with hless | hequal
  · rcases roundHalfEven_eq_or x with hx | hx
    · rcases roundHalfEven_eq_or y with hy | hy <;> omega
    · rcases roundHalfEven_eq_or y with hy | hy <;> omega
  · -- Above the same integer the greater fraction decides.
    have hfraction : x - ⌊y⌋ ≤ y - ⌊y⌋ := sub_le_sub_right hxy _
    unfold roundHalfEven
    simp only [hequal]
    split_ifs <;> first | omega | linarith

/-- Rounding a half to the even integer favours no sign. -/
theorem roundHalfEven_neg (x : ℚ) : roundHalfEven (-x) = -roundHalfEven x := by
  rcases eq_or_ne x ⌊x⌋ with hint | hfraction
  · rw [hint, ← Int.cast_neg, roundHalfEven_intCast, roundHalfEven_intCast]
  · have hlow : (⌊x⌋ : ℚ) < x := (Int.floor_le x).lt_of_ne hfraction.symm
    have hhigh : x < ⌊x⌋ + 1 := Int.lt_floor_add_one x
    have hfloor : ⌊-x⌋ = -⌊x⌋ - 1 := by
      rw [Int.floor_eq_iff]
      push_cast
      constructor <;> linarith
    unfold roundHalfEven
    simp only [hfloor]
    push_cast
    split_ifs <;> first | omega | linarith

namespace FloatFormat

variable {format : FloatFormat}

theorem nearest_neg (x : ℚ) : format.nearest (-x) = -format.nearest x := by
  have hplace : format.lastPlace (-x) = format.lastPlace x := by
    rw [lastPlace, lastPlace, abs_neg]
  rw [nearest, nearest, hplace, neg_div, roundHalfEven_neg, Int.cast_neg, neg_mul]

theorem nearest_zero : format.nearest 0 = 0 :=
  nearest_of_representable format.representable_zero

/-- Numbers with the same last place are rounded to multiples of it, in order. -/
theorem nearest_le_nearest_of_lastPlace_eq {x y : ℚ}
    (hplace : format.lastPlace x = format.lastPlace y) (hxy : x ≤ y) :
    format.nearest x ≤ format.nearest y := by
  have hpos : (0 : ℚ) < 2 ^ format.lastPlace y := by positivity
  rw [nearest, nearest, hplace]
  apply mul_le_mul_of_nonneg_right _ hpos.le
  exact_mod_cast roundHalfEven_monotone (div_le_div_of_nonneg_right hxy hpos.le)

/-- A power of two with an exponent from that of the last place on is a multiple
of the last place. -/
theorem exists_multiple_eq_zpow {x : ℚ} {e : Int}
    (hplace : format.lastPlace x ≤ e) :
    ∃ n : Int, (2 : ℚ) ^ e = n * 2 ^ format.lastPlace x := by
  obtain ⟨shift, hshift⟩ := Int.eq_ofNat_of_zero_le (sub_nonneg.mpr hplace)
  refine ⟨2 ^ shift, ?_⟩
  have he : e = shift + format.lastPlace x := by omega
  conv_lhs => rw [he]
  rw [zpow_add₀ two_ne_zero]
  push_cast
  rw [zpow_natCast]

/-- What is below such a power is not rounded beyond it. -/
theorem nearest_le_zpow {x : ℚ} {e : Int} (hplace : format.lastPlace x ≤ e)
    (hx : x ≤ 2 ^ e) : format.nearest x ≤ 2 ^ e := by
  have hpos : (0 : ℚ) < 2 ^ format.lastPlace x := by positivity
  obtain ⟨n, hn⟩ := exists_multiple_eq_zpow hplace
  have hround := roundHalfEven_monotone ((div_le_iff₀ hpos).mpr (hn ▸ hx))
  rw [roundHalfEven_intCast] at hround
  rw [nearest, hn]
  exact mul_le_mul_of_nonneg_right (by exact_mod_cast hround) hpos.le

/-- Nor is what is above it. -/
theorem zpow_le_nearest {x : ℚ} {e : Int} (hplace : format.lastPlace x ≤ e)
    (hx : 2 ^ e ≤ x) : 2 ^ e ≤ format.nearest x := by
  have hpos : (0 : ℚ) < 2 ^ format.lastPlace x := by positivity
  obtain ⟨n, hn⟩ := exists_multiple_eq_zpow hplace
  have hround := roundHalfEven_monotone ((le_div_iff₀ hpos).mpr (hn ▸ hx))
  rw [roundHalfEven_intCast] at hround
  rw [nearest, hn]
  exact mul_le_mul_of_nonneg_right (by exact_mod_cast hround) hpos.le

theorem nearest_nonneg {x : ℚ} (hx : 0 ≤ x) : 0 ≤ format.nearest x := by
  have hpos : (0 : ℚ) < 2 ^ format.lastPlace x := by positivity
  have hround := roundHalfEven_monotone (div_nonneg hx hpos.le)
  rw [← Int.cast_zero, roundHalfEven_intCast] at hround
  exact mul_nonneg (by exact_mod_cast hround) hpos.le

theorem nearest_le_nearest_of_pos {x y : ℚ} (hx : 0 < x) (hxy : x ≤ y) :
    format.nearest x ≤ format.nearest y := by
  have hy : 0 < y := hx.trans_le hxy
  have hlog : Int.log 2 x ≤ Int.log 2 y := Int.log_mono_right hx hxy
  rcases eq_or_ne (format.lastPlace x) (format.lastPlace y) with hsame | hother
  · exact nearest_le_nearest_of_lastPlace_eq hsame hxy
  · -- The power of two at which `y` begins lies between them.
    have hplace : format.lastPlace x ≤ Int.log 2 y ∧
        format.lastPlace y ≤ Int.log 2 y ∧ Int.log 2 x < Int.log 2 y := by
      have hprecision := format.precision_pos
      unfold lastPlace at hother ⊢
      rw [abs_of_pos hx, abs_of_pos hy] at *
      omega
    have hbegin : (2 : ℚ) ^ Int.log 2 y ≤ y := by
      exact_mod_cast Int.zpow_log_le_self (R := ℚ) one_lt_two hy
    have hend : x ≤ (2 : ℚ) ^ Int.log 2 y := by
      exact ((Int.lt_zpow_iff_log_lt one_lt_two hx).mpr
        (by exact_mod_cast hplace.2.2)).le
    exact (nearest_le_zpow hplace.1 hend).trans (zpow_le_nearest hplace.2.1 hbegin)

/-- Rounding to the nearest number of the format keeps the order. -/
theorem nearest_monotone : Monotone format.nearest := by
  intro x y hxy
  rcases lt_trichotomy x 0 with hx | rfl | hx
  · rcases lt_or_ge y 0 with hy | hy
    · have hflip : format.nearest (-y) ≤ format.nearest (-x) :=
        nearest_le_nearest_of_pos (neg_pos.mpr hy) (neg_le_neg hxy)
      rw [nearest_neg, nearest_neg] at hflip
      exact neg_le_neg_iff.mp hflip
    · have hbelow : 0 ≤ format.nearest (-x) := nearest_nonneg (neg_nonneg.mpr hx.le)
      rw [nearest_neg] at hbelow
      exact (neg_nonneg.mp hbelow).trans (nearest_nonneg hy)
  · rw [nearest_zero]
    exact nearest_nonneg hxy
  · exact nearest_le_nearest_of_pos hx hxy

/-- The extended rational a rational becomes in the format: the nearest number, or
an infinity if that is too large. -/
def rounded (format : FloatFormat) (x : ℚ) : WithBot (WithTop ℚ) :=
  if |format.nearest x| < 2 ^ format.maxExponent then
    ((format.nearest x : WithTop ℚ) : WithBot (WithTop ℚ))
  else if x < 0 then ⊥ else ⊤

theorem rounded_of_representable {x : ℚ} (hx : format.Representable x) :
    format.rounded x = ((x : WithTop ℚ) : WithBot (WithTop ℚ)) := by
  have hrange : |x| < 2 ^ format.maxExponent := by
    obtain ⟨_, _, _, _, _, hless⟩ := hx
    exact hless
  rw [rounded, nearest_of_representable hx, if_pos hrange]

/-- Overflow keeps the order, too. -/
theorem rounded_monotone : Monotone format.rounded := by
  intro x y hxy
  have hnearest : format.nearest x ≤ format.nearest y := nearest_monotone hxy
  have hpositive : ∀ {z : ℚ}, ¬ |format.nearest z| < 2 ^ format.maxExponent →
      ¬ z < 0 → 2 ^ format.maxExponent ≤ format.nearest z := by
    intro z hlarge hz
    rw [abs_of_nonneg (nearest_nonneg (not_lt.mp hz)), not_lt] at hlarge
    exact hlarge
  have hnegative : ∀ {z : ℚ}, ¬ |format.nearest z| < 2 ^ format.maxExponent →
      z < 0 → format.nearest z ≤ -2 ^ format.maxExponent := by
    intro z hlarge hz
    have hflip := hpositive (z := -z) (by rwa [nearest_neg, abs_neg])
      (by linarith)
    rw [nearest_neg] at hflip
    linarith
  unfold rounded
  split_ifs with hx hy hy' hx' hy hy' hy hy'
  · exact_mod_cast hnearest
  · have hlow := (abs_lt.mp hx).1
    have hhigh := hnegative hy hy'
    linarith
  · exact le_top
  · exact bot_le
  · exact bot_le
  · exact bot_le
  · have hlow := hpositive hx hx'
    have hhigh := (abs_lt.mp hy).2
    linarith
  · exact absurd (hxy.trans_lt hy') hx'
  · exact le_rfl

end FloatFormat

/-! ## Comparison -/

namespace BinaryFloat

variable {format : FloatFormat}

/-- The extended rational a number stands for; a NaN stands for none, and is put
at the bottom. -/
def extended : BinaryFloat format → WithBot (WithTop ℚ)
  | nan => ⊥
  | infinity negative => if negative then ⊥ else ⊤
  | finite x => ((x.value : WithTop ℚ) : WithBot _)

/-- `x <= y`; a NaN compares with nothing. -/
instance : LE (BinaryFloat format) :=
  ⟨fun x y => x ≠ nan ∧ y ≠ nan ∧ x.extended ≤ y.extended⟩

instance (x y : BinaryFloat format) : Decidable (x ≤ y) :=
  inferInstanceAs (Decidable (_ ∧ _ ∧ _))

/-- Neither an infinity nor a NaN. -/
def isFinite : BinaryFloat format → Bool
  | finite _ => true
  | _ => false

theorem le_iff {x y : BinaryFloat format} :
    x ≤ y ↔ x ≠ nan ∧ y ≠ nan ∧ x.extended ≤ y.extended := Iff.rfl

theorem le_self {x : BinaryFloat format} (hx : x ≠ nan) : x ≤ x :=
  ⟨hx, hx, le_rfl⟩

theorem exists_finite_of_isFinite {x : BinaryFloat format}
    (hx : x.isFinite = true) : ∃ u, x = finite u := by
  cases x with
  | nan => cases hx
  | infinity negative => cases hx
  | finite u => exact ⟨u, rfl⟩

theorem ofRat_ne_nan (x : ℚ) : (ofRat x : BinaryFloat format) ≠ nan := by
  unfold ofRat
  split_ifs <;> simp

theorem extended_ofRat (x : ℚ) :
    (ofRat x : BinaryFloat format).extended = format.rounded x := by
  unfold ofRat FloatFormat.rounded
  split_ifs with hrange hzero hnegative
  · rw [hzero.1]
    rfl
  · rfl
  · simp [extended, hnegative]
  · simp [extended, hnegative]

variable (format) in
theorem zero_eq (negative : Bool) : ∃ u : FiniteFloat format,
    zero negative = finite u ∧ u.value = 0 := by
  cases negative with
  | true => exact ⟨.negativeZero, rfl, rfl⟩
  | false =>
      refine ⟨.number 0 format.representable_zero, ?_, rfl⟩
      exact ofRat_of_representable format.representable_zero

theorem isFinite_unsignZero (x : BinaryFloat format) :
    x.unsignZero.isFinite = x.isFinite := by
  cases x with
  | nan => rfl
  | infinity negative => rfl
  | finite x =>
      cases x with
      | negativeZero =>
          obtain ⟨u, hu, _⟩ := zero_eq format false
          show (zero false : BinaryFloat format).isFinite = true
          rw [hu]
          rfl
      | number value hvalue => rfl

theorem representable_value (u : FiniteFloat format) :
    format.Representable u.value := by
  cases u with
  | negativeZero => exact format.representable_zero
  | number value hvalue => exact hvalue

/-- A sum of finite numbers is the rounded sum of their values. -/
theorem extended_add_finite (u v : FiniteFloat format) :
    add (finite u) (finite v) ≠ nan ∧
      (add (finite u) (finite v)).extended = format.rounded (u.value + v.value) := by
  rw [add]
  split_ifs with hsum
  · obtain ⟨w, hw, hvalue⟩ := zero_eq format
      (u.isNegative && v.isNegative)
    rw [hw, hsum, FloatFormat.rounded_of_representable format.representable_zero]
    exact ⟨by simp, by rw [extended, hvalue]⟩
  · exact ⟨ofRat_ne_nan _, extended_ofRat _⟩

/-- The negative of a finite number is the one of its negative value. -/
theorem neg_finite (u : FiniteFloat format) :
    ∃ v : FiniteFloat format, neg (finite u) = finite v ∧ v.value = -u.value := by
  rw [neg]
  split_ifs with hzero
  · obtain ⟨w, hw, hvalue⟩ := zero_eq format (!u.isNegative)
    exact ⟨w, hw, by rw [hvalue, hzero, neg_zero]⟩
  · have hnegative : format.Representable (-u.value) := by
      obtain ⟨significand, exponent, hsignificand, hmin, hvalue, hrange⟩ :=
        representable_value u
      refine ⟨-significand, exponent, by rwa [abs_neg], hmin, ?_, by rwa [abs_neg]⟩
      rw [hvalue]
      push_cast
      ring
    exact ⟨_, ofRat_of_representable hnegative, rfl⟩

/-- Adding the positive zero changes no comparison. -/
theorem extended_add_zero (x : BinaryFloat format) :
    (add x (zero false) = nan ↔ x = nan) ∧
      (add x (zero false)).extended = x.extended := by
  obtain ⟨w, hw, hzero⟩ := zero_eq format false
  rw [hw]
  cases x with
  | nan => simp [add]
  | infinity negative => simp [add]
  | finite u =>
      obtain ⟨hsum, hvalue⟩ := extended_add_finite u w
      rw [hvalue, hzero, add_zero,
        FloatFormat.rounded_of_representable (representable_value u)]
      exact ⟨iff_of_false hsum (by simp), rfl⟩

/-- Subtracting a finite number keeps the order, and makes no NaN. -/
theorem sub_le_sub_right {x y t : BinaryFloat format} (ht : t.isFinite = true)
    (hxy : x ≤ y) : sub x t ≤ sub y t := by
  obtain ⟨u, rfl⟩ := exists_finite_of_isFinite ht
  obtain ⟨v, hv, _⟩ := neg_finite u
  obtain ⟨hx, hy, hle⟩ := hxy
  rw [sub, sub, hv]
  cases x with
  | nan => exact absurd rfl hx
  | infinity negative =>
      cases y with
      | nan => exact absurd rfl hy
      | infinity other => exact ⟨by simp [add], by simp [add], hle⟩
      | finite b =>
          cases negative with
          | false => simp [extended] at hle
          | true =>
              exact ⟨by simp [add], (extended_add_finite b v).1, bot_le⟩
  | finite a =>
      obtain ⟨hsum, hvalue⟩ := extended_add_finite a v
      refine ⟨hsum, ?_⟩
      cases y with
      | nan => exact absurd rfl hy
      | infinity other =>
          cases other with
          | false => exact ⟨by simp [add], le_top⟩
          | true => simp [extended] at hle
      | finite b =>
          obtain ⟨hother, hvalue'⟩ := extended_add_finite b v
          have hab : a.value ≤ b.value := by simpa [extended] using hle
          refine ⟨hother, ?_⟩
          rw [hvalue, hvalue']
          apply FloatFormat.rounded_monotone
          linarith

end BinaryFloat

end Library
end ImportDlibDemo
