import Mathlib.Data.Int.Log
import Mathlib.Data.Prod.Lex
import Mathlib.Tactic
import ImportDlibDemo.Library.Truncation

/-!
# Binary floating-point numbers

A format is given by its precision and its range of exponents; `binary32` is
one.  The finite numbers of a format are the rationals it represents, with a
zero of either sign, in their order.  Arithmetic is exact arithmetic followed by
rounding to the nearest number of the format, ties to even.

What a format represents is not changed by rounding, so integers up to
`2 ^ precision` survive the way into the format and back.
-/

namespace ImportDlibDemo
namespace Library

open Truncation

/-- Significands of `precision` bits, exponents from `minExponent` on, and
magnitudes below `2 ^ maxExponent`. -/
structure FloatFormat where
  precision : Nat
  minExponent : Int
  maxExponent : Int
  precision_pos : 0 < precision
  range : minExponent + precision ≤ maxExponent

/-- The format of a C or Java `float`. -/
def binary32 : FloatFormat where
  precision := 24
  minExponent := -149
  maxExponent := 128
  precision_pos := by decide
  range := by decide

/-- The format of a C or Java `double`. -/
def binary64 : FloatFormat where
  precision := 53
  minExponent := -1074
  maxExponent := 1024
  precision_pos := by decide
  range := by decide

/-- Round to the nearest integer, a half to the even one. -/
def roundHalfEven (x : ℚ) : Int :=
  let fraction := x - ⌊x⌋
  if fraction < 1 / 2 then ⌊x⌋
  else if 1 / 2 < fraction then ⌊x⌋ + 1
  else if ⌊x⌋ % 2 = 0 then ⌊x⌋
  else ⌊x⌋ + 1

theorem roundHalfEven_intCast (n : Int) : roundHalfEven (n : ℚ) = n := by
  simp [roundHalfEven]

theorem roundHalfEven_eq_or (x : ℚ) :
    roundHalfEven x = ⌊x⌋ ∨ roundHalfEven x = ⌊x⌋ + 1 := by
  unfold roundHalfEven
  dsimp only
  split_ifs
  · exact Or.inl rfl
  · exact Or.inr rfl
  · exact Or.inl rfl
  · exact Or.inr rfl

/-- Rounding does not leave an interval between integers. -/
theorem abs_roundHalfEven_le {x : ℚ} {n : Int} (hx : |x| < n) :
    |roundHalfEven x| ≤ n := by
  obtain ⟨hlow, hhigh⟩ := abs_lt.mp hx
  have hfloor : -n ≤ ⌊x⌋ := by
    apply Int.le_floor.mpr
    push_cast
    exact hlow.le
  have hbelow : ⌊x⌋ < n := Int.floor_lt.mpr hhigh
  rw [abs_le]
  rcases roundHalfEven_eq_or x with h | h
  · rw [h]
    constructor <;> omega
  · rw [h]
    constructor <;> omega

theorem abs_roundHalfEven_sub_le (x : ℚ) : |roundHalfEven x - x| ≤ 1 / 2 := by
  have hlow : (⌊x⌋ : ℚ) ≤ x := Int.floor_le x
  have hhigh : x < ⌊x⌋ + 1 := Int.lt_floor_add_one x
  rw [abs_le]
  unfold roundHalfEven
  dsimp only
  split_ifs <;> push_cast <;> constructor <;> linarith

namespace FloatFormat

variable {format : FloatFormat}

/-- The rational is a number of the format. -/
def Representable (format : FloatFormat) (value : ℚ) : Prop :=
  ∃ significand exponent : Int, |significand| < 2 ^ format.precision ∧
    format.minExponent ≤ exponent ∧ value = significand * 2 ^ exponent ∧
    |value| < 2 ^ format.maxExponent

/-- The exponent of the last place of a number near `x`. -/
def lastPlace (format : FloatFormat) (x : ℚ) : Int :=
  max format.minExponent (Int.log 2 |x| + 1 - format.precision)

/-- The nearest number of the format, its exponents taken as unbounded above. -/
def nearest (format : FloatFormat) (x : ℚ) : ℚ :=
  roundHalfEven (x / 2 ^ format.lastPlace x) * 2 ^ format.lastPlace x

theorem abs_lt_lastPlace (x : ℚ) :
    |x / 2 ^ format.lastPlace x| < ((2 ^ format.precision : Int) : ℚ) := by
  have hpos : (0 : ℚ) < 2 ^ format.lastPlace x := by positivity
  have hlog : |x| < (2 : ℚ) ^ (Int.log 2 |x| + 1) := by
    exact_mod_cast Int.lt_zpow_succ_log_self (R := ℚ) one_lt_two |x|
  have hplace : Int.log 2 |x| + 1 - format.precision ≤ format.lastPlace x :=
    le_max_right _ _
  rw [abs_div, abs_of_pos hpos, div_lt_iff₀ hpos]
  push_cast
  calc |x| < (2 : ℚ) ^ (Int.log 2 |x| + 1) := hlog
    _ ≤ (2 : ℚ) ^ (format.precision + format.lastPlace x) :=
        zpow_le_zpow_right₀ one_le_two (by omega)
    _ = 2 ^ format.precision * 2 ^ format.lastPlace x := by
        rw [zpow_add₀ two_ne_zero, zpow_natCast]

/-- Rounding yields a number of the format, unless it overflows. -/
theorem representable_nearest {x : ℚ}
    (hrange : |format.nearest x| < 2 ^ format.maxExponent) :
    format.Representable (format.nearest x) := by
  have hbound := abs_roundHalfEven_le (format.abs_lt_lastPlace x)
  have hmin : format.minExponent ≤ format.lastPlace x := le_max_left _ _
  rcases hbound.lt_or_eq with hless | hequal
  · exact ⟨_, format.lastPlace x, hless, hmin, rfl, hrange⟩
  · -- Rounded up to a power of two: the significand of half the size and the
    -- next exponent.
    obtain ⟨p, hp⟩ := Nat.exists_eq_succ_of_ne_zero format.precision_pos.ne'
    rw [hp, pow_succ] at hequal
    have hhalf : ∃ half : Int, |half| = 2 ^ p ∧
        roundHalfEven (x / 2 ^ format.lastPlace x) = half * 2 := by
      rcases abs_cases (roundHalfEven (x / 2 ^ format.lastPlace x)) with
        ⟨habs, _⟩ | ⟨habs, _⟩
      · exact ⟨2 ^ p, abs_of_pos (by positivity), by omega⟩
      · exact ⟨-2 ^ p, by rw [abs_neg, abs_of_pos (by positivity)], by omega⟩
    obtain ⟨half, hsize, htwice⟩ := hhalf
    refine ⟨half, format.lastPlace x + 1, ?_, by omega, ?_, hrange⟩
    · rw [hsize, hp]
      exact pow_lt_pow_right₀ one_lt_two (Nat.lt_succ_self p)
    · rw [nearest, htwice, zpow_add_one₀ two_ne_zero]
      push_cast
      ring

/-- What the format represents is its own nearest number. -/
theorem nearest_of_representable {x : ℚ} (hx : format.Representable x) :
    format.nearest x = x := by
  obtain ⟨significand, exponent, hsignificand, hmin, rfl, _⟩ := hx
  rcases eq_or_ne significand 0 with rfl | hne
  · simp [nearest, roundHalfEven]
  have hvalue : (0 : ℚ) < |(significand : ℚ) * 2 ^ exponent| :=
    abs_pos.mpr (mul_ne_zero (Int.cast_ne_zero.mpr hne) (by positivity))
  have hlog : Int.log 2 |(significand : ℚ) * 2 ^ exponent| <
      format.precision + exponent := by
    apply (Int.lt_zpow_iff_log_lt one_lt_two hvalue).mp
    have hcast : |(significand : ℚ)| < 2 ^ format.precision := by
      exact_mod_cast hsignificand
    have hpos : (0 : ℚ) < 2 ^ exponent := by positivity
    push_cast
    rw [abs_mul, abs_of_pos hpos, zpow_add₀ two_ne_zero, zpow_natCast]
    exact mul_lt_mul_of_pos_right hcast hpos
  -- The last place is at most that of the significand, so nothing is rounded.
  have hplace : format.lastPlace ((significand : ℚ) * 2 ^ exponent) ≤ exponent :=
    max_le hmin (by omega)
  obtain ⟨shift, hshift⟩ := Int.eq_ofNat_of_zero_le (sub_nonneg.mpr hplace)
  have hscaled : (significand : ℚ) * 2 ^ exponent /
      2 ^ format.lastPlace ((significand : ℚ) * 2 ^ exponent) =
        ((significand * 2 ^ shift : Int) : ℚ) := by
    rw [mul_div_assoc, ← zpow_sub₀ two_ne_zero, hshift]
    push_cast
    rw [zpow_natCast]
  rw [nearest, hscaled, roundHalfEven_intCast, ← hscaled]
  exact div_mul_cancel₀ _ (by positivity)

/-- From the least normal number on, rounding is off by half a last place. -/
theorem abs_nearest_sub_le {x : ℚ}
    (hx : 2 ^ (format.minExponent + format.precision - 1) ≤ |x|) :
    |format.nearest x - x| ≤ |x| / 2 ^ format.precision := by
  have hpos : (0 : ℚ) < 2 ^ format.lastPlace x := by positivity
  have hsize : 0 < |x| := lt_of_lt_of_le (by positivity) hx
  have hlog : format.minExponent + format.precision - 1 ≤ Int.log 2 |x| :=
    (Int.zpow_le_iff_le_log one_lt_two hsize).mp (by exact_mod_cast hx)
  have hplace : format.lastPlace x + format.precision = Int.log 2 |x| + 1 := by
    unfold lastPlace
    omega
  -- The number begins at the power of two that many places further on.
  have hbegin : (2 : ℚ) ^ format.lastPlace x * 2 ^ format.precision ≤ 2 * |x| := by
    rw [← zpow_natCast, ← zpow_add₀ two_ne_zero, hplace, zpow_add_one₀ two_ne_zero,
      mul_comm]
    exact mul_le_mul_of_nonneg_left
      (by exact_mod_cast Int.zpow_log_le_self (R := ℚ) one_lt_two hsize) zero_le_two
  have herror : format.nearest x - x =
      (roundHalfEven (x / 2 ^ format.lastPlace x) -
        x / 2 ^ format.lastPlace x) * 2 ^ format.lastPlace x := by
    rw [nearest, sub_mul, div_mul_cancel₀ _ hpos.ne']
  rw [herror, abs_mul, abs_of_pos hpos, le_div_iff₀ (by positivity)]
  have hhalf := abs_roundHalfEven_sub_le (x / 2 ^ format.lastPlace x)
  calc _ ≤ 1 / 2 * 2 ^ format.lastPlace x * 2 ^ format.precision := by gcongr
    _ ≤ |x| := by linarith

theorem representable_zero (format : FloatFormat) :
    format.Representable 0 := by
  refine ⟨0, format.minExponent, ?_, le_rfl, by simp, ?_⟩
  · rw [abs_zero]
    positivity
  · rw [abs_zero]
    positivity

/-- Integers of the precision of the format are numbers of the format. -/
theorem representable_intCast (hmin : format.minExponent ≤ 0)
    (hmax : (format.precision : Int) < format.maxExponent) {n : Int}
    (hn : |n| ≤ 2 ^ format.precision) : format.Representable (n : ℚ) := by
  have hrange : |(n : ℚ)| < 2 ^ format.maxExponent := by
    calc |(n : ℚ)| ≤ 2 ^ format.precision := by exact_mod_cast hn
      _ = (2 : ℚ) ^ (format.precision : Int) := (zpow_natCast _ _).symm
      _ < 2 ^ format.maxExponent := zpow_lt_zpow_right₀ one_lt_two hmax
  rcases hn.lt_or_eq with hless | hequal
  · exact ⟨n, 0, hless, hmin, by simp, hrange⟩
  · have hone : |n.sign| < 2 ^ format.precision := by
      have hsign : |n.sign| ≤ 1 := by
        rcases lt_trichotomy n 0 with h | rfl | h
        · simp [Int.sign_eq_neg_one_of_neg h]
        · simp
        · simp [Int.sign_eq_one_of_pos h]
      exact hsign.trans_lt (one_lt_pow₀ one_lt_two format.precision_pos.ne')
    refine ⟨n.sign, format.precision, hone, by omega, ?_, hrange⟩
    rw [zpow_natCast]
    have hsplit : n = n.sign * 2 ^ format.precision := by
      rw [← hequal, Int.sign_mul_abs]
    exact_mod_cast hsplit

/-- The largest number of the format. -/
theorem representable_max (format : FloatFormat) :
    format.Representable
      ((2 ^ format.precision - 1) *
        2 ^ (format.maxExponent - format.precision)) := by
  have hpos : (0 : ℚ) < 2 ^ (format.maxExponent - format.precision) := by
    positivity
  have hone : (1 : ℚ) ≤ 2 ^ format.precision := one_le_pow₀ one_le_two
  have hone' : (1 : Int) ≤ 2 ^ format.precision := one_le_pow₀ one_le_two
  have hrange := format.range
  refine ⟨2 ^ format.precision - 1, format.maxExponent - format.precision, ?_,
    by omega, by push_cast; rfl, ?_⟩
  · rw [abs_of_nonneg (by omega)]
    omega
  · rw [abs_of_nonneg (mul_nonneg (by linarith) hpos.le)]
    calc (2 ^ format.precision - 1) *
          (2 : ℚ) ^ (format.maxExponent - format.precision)
        < 2 ^ format.precision *
          2 ^ (format.maxExponent - format.precision) :=
          mul_lt_mul_of_pos_right (by linarith) hpos
      _ = 2 ^ format.maxExponent := by
          rw [← zpow_natCast, ← zpow_add₀ two_ne_zero, add_sub_cancel]

/-- No number of the format is larger. -/
theorem le_max_of_representable {value : ℚ}
    (hvalue : format.Representable value) :
    value ≤ (2 ^ format.precision - 1) *
      2 ^ (format.maxExponent - format.precision) := by
  obtain ⟨significand, exponent, hsignificand, _, rfl, hrange⟩ := hvalue
  have hone : (1 : ℚ) ≤ 2 ^ format.precision := one_le_pow₀ one_le_two
  rcases le_total exponent (format.maxExponent - format.precision) with
    hsmall | hlarge
  · have hint : significand ≤ 2 ^ format.precision - 1 := by
      have hbelow := (abs_lt.mp hsignificand).2
      omega
    have hcast : (significand : ℚ) ≤ 2 ^ format.precision - 1 := by
      exact_mod_cast hint
    calc (significand : ℚ) * 2 ^ exponent
        ≤ (2 ^ format.precision - 1) * 2 ^ exponent :=
          mul_le_mul_of_nonneg_right hcast (by positivity)
      _ ≤ _ :=
          mul_le_mul_of_nonneg_left (zpow_le_zpow_right₀ one_le_two hsmall)
            (by linarith)
  · -- A greater exponent makes the number a multiple of the greatest last place.
    obtain ⟨shift, hshift⟩ := Int.eq_ofNat_of_zero_le (sub_nonneg.mpr hlarge)
    have hsplit : (significand : ℚ) * 2 ^ exponent =
        ((significand * 2 ^ shift : Int) : ℚ) *
          2 ^ (format.maxExponent - format.precision) := by
      have hexponent : exponent =
          shift + (format.maxExponent - format.precision) := by omega
      rw [hexponent, zpow_add₀ two_ne_zero]
      push_cast
      rw [zpow_natCast, mul_assoc]
    have hpos : (0 : ℚ) < 2 ^ (format.maxExponent - format.precision) := by
      positivity
    rw [hsplit] at hrange ⊢
    have hmax : (2 : ℚ) ^ format.maxExponent =
        2 ^ format.precision * 2 ^ (format.maxExponent - format.precision) := by
      rw [← zpow_natCast, ← zpow_add₀ two_ne_zero, add_sub_cancel]
    have hint : significand * 2 ^ shift < 2 ^ format.precision := by
      have hless := (le_abs_self _).trans_lt hrange
      rw [hmax] at hless
      exact_mod_cast lt_of_mul_lt_mul_right hless hpos.le
    have hcast : ((significand * 2 ^ shift : Int) : ℚ) ≤
        2 ^ format.precision - 1 := by
      exact_mod_cast Int.le_sub_one_of_lt hint
    exact mul_le_mul_of_nonneg_right hcast hpos.le

/-- The least positive number of the format. -/
theorem representable_min (format : FloatFormat) :
    format.Representable (2 ^ format.minExponent) := by
  have hprecision := format.precision_pos
  have hrange := format.range
  refine ⟨1, format.minExponent, ?_, le_rfl, by simp, ?_⟩
  · rw [abs_one]
    exact one_lt_pow₀ one_lt_two hprecision.ne'
  · rw [abs_of_pos (by positivity)]
    exact zpow_lt_zpow_right₀ one_lt_two (by omega)

/-- No positive number of the format is smaller. -/
theorem min_le_of_representable {value : ℚ} (hvalue : format.Representable value)
    (hpositive : 0 < value) : (2 : ℚ) ^ format.minExponent ≤ value := by
  obtain ⟨significand, exponent, _, hmin, rfl, _⟩ := hvalue
  have hpow : (0 : ℚ) < 2 ^ exponent := by positivity
  have hint : 1 ≤ significand := by
    have hpos := (pos_iff_pos_of_mul_pos hpositive).mpr hpow
    exact_mod_cast hpos
  calc (2 : ℚ) ^ format.minExponent ≤ 2 ^ exponent :=
        zpow_le_zpow_right₀ one_le_two hmin
    _ ≤ significand * 2 ^ exponent :=
        le_mul_of_one_le_left hpow.le (by exact_mod_cast hint)

end FloatFormat

/-! ## The finite numbers in their order -/

/-- A finite number of the format; zero comes with either sign. -/
inductive FiniteFloat (format : FloatFormat)
  | negativeZero
  | number (value : ℚ) (representable : format.Representable value)
  deriving DecidableEq, Repr

namespace FiniteFloat

variable {format : FloatFormat}

/-- The rational a number stands for. -/
def value : FiniteFloat format → ℚ
  | negativeZero => 0
  | number value _ => value

/-- Numbers are ordered by value, the negative zero before the positive one. -/
def rank : FiniteFloat format → ℚ ×ₗ Bool
  | negativeZero => toLex (0, false)
  | number value _ => toLex (value, true)

theorem rank_injective :
    Function.Injective (rank : FiniteFloat format → ℚ ×ₗ Bool) := by
  intro x y hxy
  cases x with
  | negativeZero =>
      cases y with
      | negativeZero => rfl
      | number value _ => cases congrArg (fun p => (ofLex p).2) hxy
  | number value _ =>
      cases y with
      | negativeZero => cases congrArg (fun p => (ofLex p).2) hxy
      | number other _ =>
          obtain rfl : value = other := congrArg (fun p => (ofLex p).1) hxy
          rfl

instance : LinearOrder (FiniteFloat format) :=
  LinearOrder.lift' rank rank_injective

theorem value_le_of_le {x y : FiniteFloat format} (hxy : x ≤ y) :
    x.value ≤ y.value := by
  have hrank : rank x ≤ rank y := hxy
  have hvalue := Prod.Lex.monotone_fst _ _ hrank
  cases x <;> cases y <;> exact hvalue

theorem le_number {x : FiniteFloat format} {value : ℚ}
    (hvalue : format.Representable value) (hx : x.value ≤ value) :
    x ≤ number value hvalue := by
  show rank x ≤ toLex (value, true)
  rw [Prod.Lex.le_iff]
  cases x with
  | negativeZero =>
      rcases hx.lt_or_eq with hless | hequal
      · exact Or.inl hless
      · exact Or.inr ⟨hequal, Bool.false_le _⟩
  | number other _ =>
      rcases hx.lt_or_eq with hless | hequal
      · exact Or.inl hless
      · exact Or.inr ⟨hequal, le_rfl⟩

/-- The greatest finite number. -/
def maxValue (format : FloatFormat) : FiniteFloat format :=
  number _ format.representable_max

/-- The least positive number. -/
def minValue (format : FloatFormat) : FiniteFloat format :=
  number _ format.representable_min

theorem le_maxValue (x : FiniteFloat format) : x ≤ maxValue format := by
  apply le_number
  cases x with
  | negativeZero =>
      have hone : (1 : ℚ) ≤ 2 ^ format.precision := one_le_pow₀ one_le_two
      exact mul_nonneg (by linarith) (by positivity)
  | number value hvalue => exact FloatFormat.le_max_of_representable hvalue

theorem minValue_le_iff {x : FiniteFloat format} :
    minValue format ≤ x ↔ 0 < x.value := by
  constructor
  · intro hle
    have hvalue := value_le_of_le hle
    exact lt_of_lt_of_le (by simp [minValue, value]; positivity) hvalue
  · intro hpositive
    cases x with
    | negativeZero => exact absurd hpositive (lt_irrefl 0)
    | number value hvalue =>
        exact le_number hvalue
          (FloatFormat.min_le_of_representable hvalue hpositive)

/-- The sign bit. -/
def isNegative : FiniteFloat format → Bool
  | negativeZero => true
  | number value _ => value < 0

end FiniteFloat

/-! ## Arithmetic -/

/-- The numbers of a format, with the infinities and one NaN. -/
inductive BinaryFloat (format : FloatFormat)
  | nan
  | infinity (negative : Bool)
  | finite (x : FiniteFloat format)
  deriving DecidableEq, Repr

namespace BinaryFloat

variable {format : FloatFormat}

/-- The nearest number; a negative value that rounds to zero keeps its sign, and
one that is too large becomes infinite. -/
def ofRat (x : ℚ) : BinaryFloat format :=
  if hrange : |format.nearest x| < 2 ^ format.maxExponent then
    if format.nearest x = 0 ∧ x < 0 then finite .negativeZero
    else finite (.number _ (FloatFormat.representable_nearest hrange))
  else infinity (x < 0)

/-- Conversion from an integer. -/
def ofInt (n : Int) : BinaryFloat format :=
  ofRat n

/-- Conversion to an integer drops the fraction; what is not finite has no
integer. -/
def toInt? : BinaryFloat format → Option Int
  | finite x => some (truncate x.value)
  | _ => none

/-- Zero with a sign. -/
def zero (negative : Bool) : BinaryFloat format :=
  if negative then finite .negativeZero else ofRat 0

/-- Division. -/
def div : BinaryFloat format → BinaryFloat format → BinaryFloat format
  | nan, _ => nan
  | _, nan => nan
  | infinity _, infinity _ => nan
  | infinity negative, finite y => infinity (negative ^^ y.isNegative)
  | finite x, infinity negative => zero (x.isNegative ^^ negative)
  | finite x, finite y =>
      if y.value = 0 then
        if x.value = 0 then nan
        else infinity (x.isNegative ^^ y.isNegative)
      else if x.value = 0 then zero (x.isNegative ^^ y.isNegative)
      else ofRat (x.value / y.value)

/-- Change the sign. -/
def neg : BinaryFloat format → BinaryFloat format
  | nan => nan
  | infinity negative => infinity (!negative)
  | finite x => if x.value = 0 then zero (!x.isNegative) else ofRat (-x.value)

/-- Addition.  A sum that is exactly zero is the positive zero, unless both terms
are negative zeros. -/
def add : BinaryFloat format → BinaryFloat format → BinaryFloat format
  | nan, _ => nan
  | _, nan => nan
  | infinity negative, infinity other =>
      if negative = other then infinity negative else nan
  | infinity negative, finite _ => infinity negative
  | finite _, infinity negative => infinity negative
  | finite x, finite y =>
      if x.value + y.value = 0 then zero (x.isNegative && y.isNegative)
      else ofRat (x.value + y.value)

/-- Subtraction. -/
def sub (x y : BinaryFloat format) : BinaryFloat format :=
  add x (neg y)

/-- `x > y`; a NaN compares with nothing. -/
def gt : BinaryFloat format → BinaryFloat format → Bool
  | nan, _ => false
  | _, nan => false
  | infinity negative, infinity other => !negative && other
  | infinity negative, finite _ => !negative
  | finite _, infinity negative => negative
  | finite x, finite y => y.value < x.value

/-- Multiplication. -/
def mul : BinaryFloat format → BinaryFloat format → BinaryFloat format
  | nan, _ => nan
  | _, nan => nan
  | infinity negative, infinity other => infinity (negative ^^ other)
  | infinity negative, finite y =>
      if y.value = 0 then nan else infinity (negative ^^ y.isNegative)
  | finite x, infinity negative =>
      if x.value = 0 then nan else infinity (x.isNegative ^^ negative)
  | finite x, finite y =>
      if x.value = 0 ∨ y.value = 0 then zero (x.isNegative ^^ y.isNegative)
      else ofRat (x.value * y.value)

/-- The smaller of two numbers, the negative zero before the positive one; a NaN
prevails. -/
def minimum : BinaryFloat format → BinaryFloat format → BinaryFloat format
  | nan, _ => nan
  | _, nan => nan
  | x, y =>
      if gt x y then y
      else if gt y x then x
      else if x = finite .negativeZero then x
      else y

instance : One (BinaryFloat format) := ⟨ofInt 1⟩

instance : IntCast (BinaryFloat format) := ⟨ofInt⟩

instance : NatCast (BinaryFloat format) := ⟨fun n => ofInt n⟩

instance : Add (BinaryFloat format) := ⟨add⟩

instance : Sub (BinaryFloat format) := ⟨sub⟩

instance : Mul (BinaryFloat format) := ⟨mul⟩

instance : Div (BinaryFloat format) := ⟨div⟩

instance : Min (BinaryFloat format) := ⟨minimum⟩

/-- A zero loses its sign; all else is kept. -/
def unsignZero : BinaryFloat format → BinaryFloat format
  | finite .negativeZero => zero false
  | x => x

/-- Comparison with zero, whose signs are equal. -/
def isZero : BinaryFloat format → Bool
  | finite x => x.value = 0
  | _ => false

theorem ofRat_of_representable {x : ℚ} (hx : format.Representable x) :
    ofRat x = finite (.number x hx) := by
  have hnearest := FloatFormat.nearest_of_representable hx
  have hrange : |format.nearest x| < 2 ^ format.maxExponent := by
    rw [hnearest]
    obtain ⟨_, _, _, _, _, hless⟩ := hx
    exact hless
  have hzero : ¬ (format.nearest x = 0 ∧ x < 0) := by
    rw [hnearest]
    rintro ⟨rfl, hnegative⟩
    exact absurd hnegative (lt_irrefl 0)
  rw [ofRat, dif_pos hrange, if_neg hzero]
  congr 2

/-- A rational that is not negative becomes the nearest number, unless it
overflows. -/
theorem ofRat_of_nonneg {x : ℚ} (hx : 0 ≤ x)
    (hrange : |format.nearest x| < 2 ^ format.maxExponent) :
    ofRat x = finite (.number _ (FloatFormat.representable_nearest hrange)) := by
  rw [ofRat, dif_pos hrange, if_neg]
  rintro ⟨_, hnegative⟩
  exact absurd hnegative hx.not_gt

/-- The quotient of positive numbers is rounded. -/
theorem div_number {x y : ℚ} {hx : format.Representable x}
    {hy : format.Representable y} (hxpos : 0 < x) (hypos : 0 < y) :
    div (finite (.number x hx)) (finite (.number y hy)) = ofRat (x / y) := by
  simp [div, FiniteFloat.value, hxpos.ne', hypos.ne']

/-- And so is their product. -/
theorem mul_number {x y : ℚ} {hx : format.Representable x}
    {hy : format.Representable y} (hxpos : 0 < x) (hypos : 0 < y) :
    mul (finite (.number x hx)) (finite (.number y hy)) = ofRat (x * y) := by
  simp [mul, FiniteFloat.value, hxpos.ne', hypos.ne']

/-- The rational a number stands for; what is not finite stands for none. -/
def toRat : BinaryFloat format → ℚ
  | finite x => x.value
  | _ => 0

/-- Integers up to `2 ^ precision` survive the way through the format. -/
theorem toInt?_ofInt (hmin : format.minExponent ≤ 0)
    (hmax : (format.precision : Int) < format.maxExponent) {n : Int}
    (hn : |n| ≤ 2 ^ format.precision) :
    (ofInt n : BinaryFloat format).toInt? = some n := by
  rw [ofInt, ofRat_of_representable
    (FloatFormat.representable_intCast hmin hmax hn)]
  show some (truncate (n : ℚ)) = some n
  rw [truncate_intCast]

/-- The sign of a zero does not show in its integer. -/
theorem toInt?_unsignZero (x : BinaryFloat format) :
    x.unsignZero.toInt? = x.toInt? := by
  cases x with
  | nan => rfl
  | infinity negative => rfl
  | finite x =>
      cases x with
      | negativeZero =>
          have hzero : (zero false : BinaryFloat format) =
              finite (.number 0 format.representable_zero) :=
            ofRat_of_representable format.representable_zero
          show (zero false : BinaryFloat format).toInt? = _
          rw [hzero]
          rfl
      | number value _ => rfl

/-- A zero without its sign is the zero; all else is itself. -/
theorem unsignZero_eq (x : BinaryFloat format) :
    x.unsignZero = if x.isZero then zero false else x := by
  cases x with
  | nan => rfl
  | infinity negative => rfl
  | finite x =>
      cases x with
      | negativeZero => rfl
      | number value hvalue =>
          show finite (.number value hvalue) =
            if decide (value = 0) then zero false else _
          by_cases hzero : value = 0
          · subst hzero
            rw [if_pos (decide_eq_true rfl)]
            exact (ofRat_of_representable hvalue).symm
          · rw [if_neg (by simpa using hzero)]

end BinaryFloat

end Library
end ImportDlibDemo
