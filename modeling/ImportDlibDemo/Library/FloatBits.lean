import ImportDlibDemo.Library.BinaryFloat

/-!
# The bits of a floating-point number

The interchange encoding of a binary format, as a natural number: above the sign
bit nothing, below it the magnitude, whose low bits are the significand without
its leading one and whose high bits are the exponent.  The numbers of one
exponent follow each other, and those of the next exponent follow them, so the
magnitude of a number is its significand on top of the numbers of the smaller
exponents.

There is one NaN, the quiet one without a payload.
-/

namespace ImportDlibDemo
namespace Library

namespace FloatFormat

variable {format : FloatFormat}

/-- How many numbers share an exponent. -/
def binade (format : FloatFormat) : Nat :=
  2 ^ (format.precision - 1)

/-- How many exponents there are above the least one. -/
def exponents (format : FloatFormat) : Nat :=
  (format.maxExponent - format.minExponent - format.precision).toNat

/-- The magnitude of the infinities. -/
def infinityBits (format : FloatFormat) : Nat :=
  (format.exponents + 2) * format.binade

/-- The bit of the sign. -/
def signBit (format : FloatFormat) : Nat :=
  (format.exponents + 3) * format.binade

/-- The magnitude of a positive number of the format. -/
def magnitudeBits (format : FloatFormat) (x : ℚ) : Nat :=
  (format.lastPlace x - format.minExponent).toNat * format.binade +
    ⌊x / 2 ^ format.lastPlace x⌋.toNat

/-- The positive number of a magnitude. -/
def ofMagnitudeBits (format : FloatFormat) (magnitude : Nat) : ℚ :=
  if magnitude < format.binade then magnitude * 2 ^ format.minExponent
  else
    (format.binade + magnitude % format.binade : Nat) *
      2 ^ (format.minExponent + (magnitude / format.binade - 1 : Nat))

theorem binade_pos (format : FloatFormat) : 0 < format.binade := by
  unfold binade
  positivity

theorem infinityBits_add_binade (format : FloatFormat) :
    format.infinityBits + format.binade = format.signBit := by
  unfold infinityBits signBit
  ring

theorem representable_abs {x : ℚ} (hx : format.Representable x) :
    format.Representable |x| := by
  rcases abs_choice x with h | h
  · rwa [h]
  · rw [h]
    obtain ⟨significand, exponent, hsignificand, hmin, rfl, hrange⟩ := hx
    refine ⟨-significand, exponent, by rwa [abs_neg], hmin, ?_,
      by rwa [abs_neg]⟩
    push_cast
    ring

theorem two_mul_binade (format : FloatFormat) :
    2 * format.binade = 2 ^ format.precision := by
  have hprecision := format.precision_pos
  rw [binade, ← pow_succ']
  congr 1
  omega

/-- The significand and the exponent of a positive number: at an exponent above
the least one the significand has its leading bit. -/
theorem exists_significand {x : ℚ} (hx : format.Representable x)
    (hpositive : 0 < x) :
    ∃ significand exponent : Nat,
      x = significand * 2 ^ (format.minExponent + exponent) ∧
      format.lastPlace x = format.minExponent + exponent ∧
      0 < significand ∧ significand < 2 * format.binade ∧
      exponent ≤ format.exponents ∧
      (exponent = 0 ∨ format.binade ≤ significand) := by
  have hpos : (0 : ℚ) < 2 ^ format.lastPlace x := by positivity
  have hplace : format.minExponent ≤ format.lastPlace x := le_max_left _ _
  obtain ⟨exponent, hexponent⟩ := Int.le.dest hplace
  -- Nothing is rounded at the last place, so `x` is a multiple of it.
  have hround : (roundHalfEven (x / 2 ^ format.lastPlace x) : ℚ) *
      2 ^ format.lastPlace x = x := nearest_of_representable hx
  have hscaled : x / 2 ^ format.lastPlace x =
      roundHalfEven (x / 2 ^ format.lastPlace x) := by
    rw [div_eq_iff hpos.ne', hround]
  have hsize := format.abs_lt_lastPlace x
  generalize roundHalfEven (x / 2 ^ format.lastPlace x) = n at hround hscaled
  have hn : 0 < n := by
    have hquotient : 0 < x / 2 ^ format.lastPlace x := div_pos hpositive hpos
    rw [hscaled] at hquotient
    exact_mod_cast hquotient
  obtain ⟨significand, rfl⟩ := Int.eq_ofNat_of_zero_le hn.le
  have hless : significand < 2 ^ format.precision := by
    rw [hscaled, abs_of_pos (by exact_mod_cast hn)] at hsize
    exact_mod_cast hsize
  have hlog : (2 : ℚ) ^ Int.log 2 |x| ≤ x := by
    rw [abs_of_pos hpositive]
    exact_mod_cast Int.zpow_log_le_self one_lt_two hpositive
  refine ⟨significand, exponent, ?_, hexponent.symm, by exact_mod_cast hn,
    by rw [two_mul_binade]; exact hless, ?_, ?_⟩
  · rw [hexponent]
    exact_mod_cast hround.symm
  · -- Numbers of the format are smaller than the next power of two.
    obtain ⟨_, _, _, _, _, hrange⟩ := hx
    have hpow : (2 : ℚ) ^ Int.log 2 |x| < 2 ^ format.maxExponent :=
      hlog.trans_lt ((le_abs_self x).trans_lt hrange)
    have hlogLt := (zpow_lt_zpow_iff_right₀ one_lt_two).mp hpow
    have hformat := format.range
    have hmax : format.lastPlace x ≤
        format.maxExponent - format.precision := by
      unfold lastPlace
      exact max_le (by omega) (by omega)
    unfold exponents
    omega
  · rcases Nat.eq_zero_or_pos exponent with hzero | hmore
    · exact Or.inl hzero
    · right
      have hlast : format.lastPlace x =
          Int.log 2 |x| + 1 - format.precision := by
        have hmax : format.minExponent < format.lastPlace x := by omega
        unfold lastPlace at hmax ⊢
        exact max_eq_right (lt_max_iff.mp hmax |>.resolve_left (lt_irrefl _)).le
      have hprecision := format.precision_pos
      have hbinade : ((format.binade : ℚ)) * 2 ^ format.lastPlace x =
          2 ^ Int.log 2 |x| := by
        rw [binade, Nat.cast_pow, ← zpow_natCast, Nat.cast_ofNat,
          ← zpow_add₀ two_ne_zero]
        congr 1
        omega
      have hle : (format.binade : ℚ) * 2 ^ format.lastPlace x ≤
          significand * 2 ^ format.lastPlace x := by
        rw [hbinade]
        calc (2 : ℚ) ^ Int.log 2 |x| ≤ x := hlog
          _ = significand * 2 ^ format.lastPlace x := by exact_mod_cast hround.symm
      exact_mod_cast le_of_mul_le_mul_right hle hpos

/-- A positive number is found again from its magnitude, which lies below that
of the infinities. -/
theorem ofMagnitudeBits_magnitudeBits {x : ℚ} (hx : format.Representable x)
    (hpositive : 0 < x) :
    format.ofMagnitudeBits (format.magnitudeBits x) = x ∧
      0 < format.magnitudeBits x ∧
      format.magnitudeBits x < format.infinityBits := by
  obtain ⟨significand, exponent, hvalue, hplace, hsome, hless, hlow, hleading⟩ :=
    exists_significand hx hpositive
  have hpos : (0 : ℚ) < 2 ^ (format.minExponent + exponent) := by positivity
  have hbinade := format.binade_pos
  have hquotient : x / 2 ^ (format.minExponent + exponent) =
      ((significand : Int) : ℚ) := by
    rw [div_eq_iff hpos.ne']
    exact_mod_cast hvalue
  have hmagnitude : format.magnitudeBits x =
      exponent * format.binade + significand := by
    rw [magnitudeBits, hplace, hquotient, Int.floor_intCast]
    simp
  rw [hmagnitude]
  refine ⟨?_, by omega, ?_⟩
  · unfold ofMagnitudeBits
    by_cases hsubnormal : significand < format.binade
    · obtain rfl : exponent = 0 := hleading.resolve_right (by omega)
      rw [if_pos (by omega), hvalue]
      simp
    · -- The leading bit of the significand counts as one more exponent.
      have hsplit : exponent * format.binade + significand =
          (significand - format.binade) + format.binade * (exponent + 1) := by
        rw [Nat.mul_add, Nat.mul_comm format.binade exponent]
        omega
      have hge : format.binade ≤ exponent * format.binade + significand := by
        omega
      have hrest : significand - format.binade < format.binade := by omega
      rw [if_neg (by omega), hsplit, Nat.add_mul_mod_self_left,
        Nat.mod_eq_of_lt hrest, Nat.add_mul_div_left _ _ hbinade,
        Nat.div_eq_of_lt hrest, hvalue]
      congr 2
      · omega
      · omega
  · have hmul : exponent * format.binade ≤ format.exponents * format.binade :=
      Nat.mul_le_mul_right _ hlow
    unfold infinityBits
    rw [Nat.add_mul]
    omega

end FloatFormat

namespace BinaryFloat

variable {format : FloatFormat}

/-- The bits of a number. -/
def toBits : BinaryFloat format → Nat
  | nan => format.infinityBits + format.binade / 2
  | infinity negative =>
      (if negative then format.signBit else 0) + format.infinityBits
  | finite x =>
      (if x.isNegative then format.signBit else 0) +
        if x.value = 0 then 0 else format.magnitudeBits |x.value|

/-- The number of the bits. -/
def ofBits (bits : Nat) : BinaryFloat format :=
  let negative : Bool := format.signBit ≤ bits
  let magnitude := if negative then bits - format.signBit else bits
  if magnitude = 0 then zero negative
  else if format.infinityBits < magnitude then nan
  else if magnitude = format.infinityBits then infinity negative
  else
    let x := format.ofMagnitudeBits magnitude
    ofRat (if negative then -x else x)

/-- Sign and magnitude are found again in their sum. -/
private theorem sign_magnitude (negative : Bool) {magnitude : Nat}
    (hmagnitude : magnitude < format.signBit) :
    decide (format.signBit ≤
        (if negative then format.signBit else 0) + magnitude) = negative ∧
      (if negative then
        (if negative then format.signBit else 0) + magnitude - format.signBit
      else (if negative then format.signBit else 0) + magnitude) =
        magnitude := by
  cases negative with
  | false =>
      simp only [Bool.false_eq_true, if_false, Nat.zero_add, and_true]
      exact decide_eq_false (by omega)
  | true =>
      simp only [if_true]
      exact ⟨decide_eq_true (by omega), by omega⟩

/-- Reading bits whose sign and magnitude are known. -/
theorem ofBits_eq (negative : Bool) (magnitude : Nat)
    (hmagnitude : magnitude < format.signBit) :
    (ofBits ((if negative then format.signBit else 0) + magnitude) :
        BinaryFloat format) =
      if magnitude = 0 then zero negative
      else if format.infinityBits < magnitude then nan
      else if magnitude = format.infinityBits then infinity negative
      else
        ofRat (if negative then -format.ofMagnitudeBits magnitude
          else format.ofMagnitudeBits magnitude) := by
  obtain ⟨hsign, hrest⟩ := sign_magnitude negative hmagnitude
  unfold ofBits
  simp only [hsign, hrest]

/-- The bits of a number give the number again. -/
theorem ofBits_toBits (hprecision : 2 ≤ format.precision)
    (x : BinaryFloat format) : ofBits x.toBits = x := by
  have hbinade := format.binade_pos
  have hsign := format.infinityBits_add_binade
  have hinfinity : 0 < format.infinityBits := by
    unfold FloatFormat.infinityBits
    positivity
  have hquiet : 0 < format.binade / 2 := by
    have htwo : 2 ≤ format.binade := by
      calc 2 = 2 ^ 1 := rfl
        _ ≤ format.binade := Nat.pow_le_pow_right (by norm_num) (by omega)
    omega
  cases x with
  | nan =>
      have hread := ofBits_eq false (format.infinityBits + format.binade / 2)
        (show _ < format.signBit by omega)
      simp only [Bool.false_eq_true, if_false, Nat.zero_add] at hread
      rw [toBits, hread, if_neg (by omega), if_pos (by omega)]
  | infinity negative =>
      rw [toBits, ofBits_eq negative _ (by omega), if_neg (by omega),
        if_neg (lt_irrefl _), if_pos rfl]
  | finite x =>
      cases x with
      | negativeZero =>
          have hread := ofBits_eq true 0 (show 0 < format.signBit by omega)
          rw [if_pos rfl] at hread
          rw [toBits]
          exact hread
      | number value hvalue =>
          show ofBits ((if decide (value < 0) then format.signBit else 0) +
            if value = 0 then 0 else format.magnitudeBits |value|) = _
          rcases eq_or_ne value 0 with rfl | hne
          · rw [if_pos rfl, ofBits_eq _ _ (by omega), if_pos rfl]
            exact ofRat_of_representable hvalue
          · rw [if_neg hne]
            obtain ⟨hsame, hsome, hfinite⟩ :=
              FloatFormat.ofMagnitudeBits_magnitudeBits
                (FloatFormat.representable_abs hvalue) (abs_pos.mpr hne)
            rw [ofBits_eq _ _ (by omega), if_neg (by omega), if_neg (by omega),
              if_neg (by omega), hsame]
            have hsigned : (if decide (value < 0) = true then -|value|
                else |value|) = value := by
              rcases lt_or_ge value 0 with hnegative | hnonneg
              · rw [if_pos (decide_eq_true hnegative), abs_of_neg hnegative,
                  neg_neg]
              · rw [if_neg (by simpa using hnonneg), abs_of_nonneg hnonneg]
            rw [hsigned]
            exact ofRat_of_representable hvalue

/-- The bits are a word of the width of the format. -/
theorem toBits_lt (x : BinaryFloat format) :
    x.toBits < 2 * format.signBit := by
  have hbinade := format.binade_pos
  have hsign := format.infinityBits_add_binade
  have hall : ∀ (negative : Bool) (magnitude : Nat),
      magnitude < format.signBit →
        (if negative then format.signBit else 0) + magnitude <
          2 * format.signBit := by
    intro negative magnitude hmagnitude
    split <;> omega
  cases x with
  | nan =>
      have := hall false (format.infinityBits + format.binade / 2) (by omega)
      simpa [toBits] using this
  | infinity negative => exact hall negative _ (by omega)
  | finite x =>
      apply hall
      split
      · omega
      · next hne =>
          cases x with
          | negativeZero => exact absurd rfl hne
          | number value hvalue =>
              obtain ⟨_, _, hfinite⟩ :=
                FloatFormat.ofMagnitudeBits_magnitudeBits
                  (FloatFormat.representable_abs hvalue) (abs_pos.mpr hne)
              show format.magnitudeBits |value| < format.signBit
              omega

/-- The bits of a `float` are a word of four bytes. -/
theorem toBits_lt_binary32 (x : BinaryFloat binary32) :
    x.toBits < 256 ^ 4 := by
  have hexponents : binary32.exponents = 253 := rfl
  have hbinade : binary32.binade = 2 ^ 23 := rfl
  have hsign : binary32.signBit = 2 ^ 31 := by
    rw [FloatFormat.signBit, hexponents, hbinade]
    norm_num
  have hless := x.toBits_lt
  rw [hsign] at hless
  omega

end BinaryFloat

end Library
end ImportDlibDemo
