import ImportDlibDemo.Dlib.IntSerialization
import ImportDlibDemo.Library.BinaryFloat

/-!
# How dlib stores floating-point numbers

As two integers, a mantissa and an exponent of two, whatever the hardware makes
of a `float`.  Low bytes of the mantissa that are zero go into the exponent, and
three exponents out of range stand for the infinities and for NaN.

Every number is read back as it was written, except that a zero loses its sign.
-/

namespace ImportDlibDemo
namespace Dlib

open Library
open Library.PrefixDecoder

/-- `dlib::float_details`. -/
structure FloatDetails where
  mantissa : Int
  exponent : Int
  deriving DecidableEq, Repr

/-- `std::frexp`: a fraction from one half on and below one, and a power of
two. -/
def frexp (value : ℚ) : ℚ × Int :=
  if value = 0 then (0, 0)
  else
    let exp := Int.log 2 |value| + 1
    (value / 2 ^ exp, exp)

variable {format : FloatFormat}

/-- `std::ldexp`. -/
def ldexp : BinaryFloat format → Int → BinaryFloat format
  | .finite x, exp =>
      if x.value = 0 then .finite x else .ofRat (x.value * 2 ^ exp)
  | x, _ => x

namespace FloatDetails

/-- `is_inf`. -/
def isInf : Int := 32000

/-- `is_ninf`. -/
def isNinf : Int := 32001

/-- `is_nan`. -/
def isNan : Int := 32002

/-- The loop that shifts zero bytes off the mantissa, at most eight times. -/
def compact : Nat → FloatDetails → FloatDetails
  | 0, details => details
  | rounds + 1, details =>
      if details.mantissa % 256 = 0 then
        compact rounds
          { mantissa := details.mantissa / 256
            exponent := details.exponent + 8 }
      else details

/-- `convert_from_T`. -/
def convertFrom : BinaryFloat format → FloatDetails
  | .infinity false => { mantissa := 0, exponent := isInf }
  | .infinity true => { mantissa := 0, exponent := isNinf }
  | .finite x =>
      let digits := min format.precision 63
      let (fraction, exp) := frexp x.value
      compact 8
        { mantissa := Truncation.truncate (fraction * 2 ^ digits)
          exponent := exp - digits }
  | .nan => { mantissa := 0, exponent := isNan }

/-- `convert_to_T`. -/
def convertTo (details : FloatDetails) : BinaryFloat format :=
  if details.exponent < isInf then
    ldexp (.ofInt details.mantissa) details.exponent
  else if details.exponent = isInf then .infinity false
  else if details.exponent = isNinf then .infinity true
  else .nan

end FloatDetails

/-- `serialize` of a floating-point number. -/
def serializeFloat (item : BinaryFloat format) : List UInt8 :=
  let temp := FloatDetails.convertFrom item
  packInt .int64 temp.mantissa ++ packInt .short temp.exponent

/-- The branch of `deserialize_floating_point` for the binary format. -/
def deserializeBinary (item : BinaryFloat format) :
    Decoder (Broken (BinaryFloat format)) (BinaryFloat format) :=
  let blame (broken : Broken Int) : Broken (BinaryFloat format) :=
    ⟨broken.info ++ "\n   while deserializing a floating point number.", item⟩
  andThen (unpackInt .int64) blame fun mantissa =>
    andThen (unpackInt .short) blame fun exponent =>
      succeed (FloatDetails.convertTo { mantissa, exponent })

/-- `old_deserialize_floating_point`: what reading the older format, a number as
text, makes of the item and the stream. -/
abbrev OldFormat (F : Type) := F → Decoder (Broken F) F

/-- `deserialize` of a floating-point number.  The bits `0x70` of the first byte
tell the formats apart; at the end of the stream all of them are set. -/
def deserializeFloat (oldFormat : OldFormat (BinaryFloat format))
    (item : BinaryFloat format) :
    Decoder (Broken (BinaryFloat format)) (BinaryFloat format)
  | [] => .failed ⟨"Error deserializing a floating point number.", item⟩
  | first :: rest =>
      if first &&& 0x70 = 0 then deserializeBinary item (first :: rest)
      else oldFormat item (first :: rest)

/-! ## What was written is read -/

/-- The integers of a stored number fit, and no exponent of the format is taken
for a special one. -/
structure Stored (format : FloatFormat) : Prop where
  precision : format.precision < 63
  minExponent : -31000 ≤ format.minExponent
  minExponent_le : format.minExponent ≤ 0
  precision_lt : (format.precision : Int) < format.maxExponent
  maxExponent : format.maxExponent ≤ 31000

theorem stored_binary32 : Stored binary32 := by
  constructor <;> decide

theorem stored_binary64 : Stored binary64 := by
  constructor <;> decide

/-- A number scaled to a number of the format is that number. -/
theorem ldexp_number {value scaled : ℚ} (hvalue : format.Representable value)
    (hscaled : format.Representable scaled) {exp : Int}
    (hscale : value * 2 ^ exp = scaled) :
    ldexp (.finite (.number value hvalue)) exp =
      .finite (.number scaled hscaled) := by
  have hsplit : ldexp (.finite (.number value hvalue)) exp =
      if value = 0 then .finite (.number value hvalue)
      else .ofRat (value * 2 ^ exp) := rfl
  rw [hsplit]
  split
  · next hzero =>
      have hsame : value = scaled := by rw [← hscale, hzero, zero_mul]
      congr 2
  · rw [hscale]
    exact BinaryFloat.ofRat_of_representable hscaled

/-- Compacting does not change the number. -/
theorem FloatDetails.compact_value (rounds : Nat) (details : FloatDetails) :
    ((compact rounds details).mantissa : ℚ) *
        2 ^ (compact rounds details).exponent =
      details.mantissa * 2 ^ details.exponent := by
  induction rounds generalizing details with
  | zero => rfl
  | succ rounds ih =>
      rw [compact]
      split
      · next hzero =>
          rw [ih]
          have hmantissa : (details.mantissa : ℚ) =
              ((details.mantissa / 256 : Int) : ℚ) * 2 ^ (8 : Int) := by
            have hdvd : details.mantissa = details.mantissa / 256 * 256 := by
              omega
            norm_num
            exact_mod_cast hdvd
          simp only
          rw [hmantissa, mul_assoc, ← zpow_add₀ two_ne_zero, add_comm 8]
      · rfl

/-- Compacting makes the mantissa no larger and adds at most eight to the
exponent in each round. -/
theorem FloatDetails.compact_bounds (rounds : Nat) (details : FloatDetails) :
    |(compact rounds details).mantissa| ≤ |details.mantissa| ∧
      details.exponent ≤ (compact rounds details).exponent ∧
      (compact rounds details).exponent ≤ details.exponent + 8 * rounds := by
  induction rounds generalizing details with
  | zero => simp [compact]
  | succ rounds ih =>
      rw [compact]
      split
      · next hzero =>
          obtain ⟨hmantissa, hlow, hhigh⟩ := ih
            { mantissa := details.mantissa / 256
              exponent := details.exponent + 8 }
          simp only at hmantissa hlow hhigh
          refine ⟨hmantissa.trans ?_, by omega, by push_cast; omega⟩
          rw [abs_le]
          have habs := abs_le.mp (le_refl |details.mantissa|)
          omega
      · refine ⟨le_rfl, le_rfl, ?_⟩
        push_cast
        omega

/-- The mantissa `frexp` yields, scaled by the digits of the format, is an
integer of the precision: no digit of a number is lost. -/
theorem exists_mantissa {value : ℚ} (hvalue : format.Representable value)
    (hne : value ≠ 0) :
    ∃ mantissa : Int,
      (frexp value).1 * 2 ^ format.precision = mantissa ∧
      |mantissa| ≤ 2 ^ format.precision ∧
      (mantissa : ℚ) * 2 ^ ((frexp value).2 - format.precision) = value ∧
      format.minExponent < (frexp value).2 ∧
      (frexp value).2 ≤ format.maxExponent := by
  have hpos : 0 < |value| := abs_pos.mpr hne
  have hmin : (2 : ℚ) ^ format.minExponent ≤ |value| := by
    obtain ⟨significand, exponent, hsignificand, hexponent, hsplit, hrange⟩ :=
      hvalue
    apply FloatFormat.min_le_of_representable _ hpos
    refine ⟨|significand|, exponent, by rwa [abs_abs], hexponent, ?_, ?_⟩
    · rw [hsplit, abs_mul, Int.cast_abs,
        abs_of_pos (by positivity : (0 : ℚ) < 2 ^ exponent)]
    · rwa [abs_abs]
  obtain ⟨significand, exponent, hsignificand, hexponent, hsplit, hrange⟩ :=
    hvalue
  have hlogRange : Int.log 2 |value| < format.maxExponent :=
    (Int.lt_zpow_iff_log_lt one_lt_two hpos).mp hrange
  have hlogMin : format.minExponent ≤ Int.log 2 |value| :=
    (Int.zpow_le_iff_le_log one_lt_two hpos).mp hmin
  have hlog : Int.log 2 |value| < format.precision + exponent := by
    apply (Int.lt_zpow_iff_log_lt one_lt_two hpos).mp
    have hcast : |(significand : ℚ)| < 2 ^ format.precision := by
      exact_mod_cast hsignificand
    rw [hsplit, abs_mul, abs_of_pos (by positivity : (0 : ℚ) < 2 ^ exponent)]
    push_cast
    rw [zpow_add₀ two_ne_zero, zpow_natCast]
    exact mul_lt_mul_of_pos_right hcast (by positivity)
  have hfrexp : frexp value =
      (value / 2 ^ (Int.log 2 |value| + 1), Int.log 2 |value| + 1) := by
    rw [frexp, if_neg hne]
  -- The scaled fraction is the significand shifted left.
  obtain ⟨shift, hshift⟩ : ∃ shift : Nat,
      exponent + format.precision - (Int.log 2 |value| + 1) = shift :=
    Int.eq_ofNat_of_zero_le (by omega)
  have hscaled : (frexp value).1 * 2 ^ format.precision =
      ((significand * 2 ^ shift : Int) : ℚ) := by
    rw [hfrexp]
    simp only
    rw [div_mul_eq_mul_div, div_eq_iff (by positivity)]
    conv_lhs => rw [hsplit]
    push_cast
    rw [mul_assoc, mul_assoc, ← zpow_natCast (2 : ℚ) shift,
      ← zpow_natCast (2 : ℚ) format.precision, ← zpow_add₀ two_ne_zero,
      ← zpow_add₀ two_ne_zero, ← hshift]
    congr 2
    omega
  have hback : (((significand * 2 ^ shift : Int) : ℚ)) *
      2 ^ ((frexp value).2 - format.precision) = value := by
    rw [← hscaled, hfrexp]
    simp only
    rw [mul_assoc, ← zpow_natCast, ← zpow_add₀ two_ne_zero, add_sub_cancel,
      div_mul_cancel₀ _ (by positivity)]
  refine ⟨significand * 2 ^ shift, hscaled, ?_, hback, ?_, ?_⟩
  · have hfraction : |(frexp value).1| ≤ 1 := by
      rw [hfrexp]
      simp only
      rw [abs_div, abs_of_pos (by positivity : (0 : ℚ) < 2 ^ (_ : Int)),
        div_le_one (by positivity)]
      exact (Int.lt_zpow_succ_log_self (R := ℚ) one_lt_two |value|).le
    have hcast : |((significand * 2 ^ shift : Int) : ℚ)| ≤
        2 ^ format.precision := by
      rw [← hscaled, abs_mul,
        abs_of_pos (by positivity : (0 : ℚ) < 2 ^ format.precision)]
      exact mul_le_of_le_one_left (by positivity) hfraction
    exact_mod_cast hcast
  · rw [hfrexp]
    simp only
    omega
  · rw [hfrexp]
    simp only
    omega

namespace FloatDetails

/-- The details of a number are its value, with integers that fit the types they
are stored as. -/
theorem convertFrom_number (hstored : Stored format) {value : ℚ}
    (hvalue : format.Representable value) :
    let details := convertFrom (.finite (.number value hvalue))
    (details.mantissa : ℚ) * 2 ^ details.exponent = value ∧
      |details.mantissa| ≤ 2 ^ format.precision ∧
      |details.exponent| < 32000 := by
  obtain ⟨hprecision, hmin, hminLe, hlt, hmax⟩ := hstored
  have hdigits : min format.precision 63 = format.precision := by omega
  rcases eq_or_ne value 0 with rfl | hne
  · have hzero : convertFrom (.finite (.number 0 hvalue)) =
        compact 8 ⟨0, -format.precision⟩ := by
      simp [convertFrom, FiniteFloat.value, frexp, Truncation.truncate, hdigits]
    obtain ⟨hmantissa, hlow, hhigh⟩ :=
      compact_bounds 8 ⟨0, -format.precision⟩
    have hvalue := compact_value 8 ⟨0, -format.precision⟩
    rw [hzero]
    simp only [abs_zero, abs_nonpos_iff, Int.cast_zero, zero_mul] at *
    refine ⟨hvalue, by rw [hmantissa, abs_zero]; positivity, ?_⟩
    rw [abs_lt]
    omega
  · obtain ⟨mantissa, hscaled, hbound, hback, hexpLow, hexpHigh⟩ :=
      exists_mantissa hvalue hne
    have hdetails : convertFrom (.finite (.number value hvalue)) =
        compact 8 ⟨mantissa, (frexp value).2 - format.precision⟩ := by
      simp only [convertFrom, FiniteFloat.value, hdigits]
      rw [hscaled, Truncation.truncate_intCast]
    obtain ⟨hmantissa, hlow, hhigh⟩ :=
      compact_bounds 8 ⟨mantissa, (frexp value).2 - format.precision⟩
    have hvalue := compact_value 8
      ⟨mantissa, (frexp value).2 - format.precision⟩
    simp only [hdetails]
    simp only at hmantissa hlow hhigh hvalue
    refine ⟨hvalue.trans hback, hmantissa.trans hbound, ?_⟩
    rw [abs_lt]
    omega

/-- Converting a number there and back keeps it. -/
theorem convertTo_of_value (hstored : Stored format) {value : ℚ}
    (hvalue : format.Representable value) {details : FloatDetails}
    (hdetails : (details.mantissa : ℚ) * 2 ^ details.exponent = value)
    (hmantissa : |details.mantissa| ≤ 2 ^ format.precision)
    (hexponent : |details.exponent| < 32000) :
    details.convertTo = (.finite (.number value hvalue) : BinaryFloat format) := by
  obtain ⟨hlow, hhigh⟩ := abs_lt.mp hexponent
  have hint := FloatFormat.representable_intCast hstored.minExponent_le
    hstored.precision_lt hmantissa
  have hfinite : details.exponent < isInf := hhigh
  unfold convertTo
  rw [if_pos hfinite, BinaryFloat.ofInt, BinaryFloat.ofRat_of_representable hint]
  exact ldexp_number hint hvalue hdetails

/-- There and back, every float is what it was, but for the sign of a zero. -/
theorem convertTo_convertFrom (hstored : Stored format)
    (item : BinaryFloat format) :
    (convertFrom item).convertTo = item.unsignZero := by
  have hnumber : ∀ {value : ℚ} (hvalue : format.Representable value),
      (convertFrom (.finite (.number value hvalue))).convertTo =
        (.finite (.number value hvalue) : BinaryFloat format) := by
    intro value hvalue
    obtain ⟨hdetails, hmantissa, hexponent⟩ := convertFrom_number hstored hvalue
    exact convertTo_of_value hstored hvalue hdetails hmantissa hexponent
  cases item with
  | nan => rfl
  | infinity negative => cases negative <;> rfl
  | finite x =>
      cases x with
      | negativeZero =>
          -- The mantissa of either zero is 0.
          have hzero := hnumber format.representable_zero
          show _ = BinaryFloat.zero false
          rw [BinaryFloat.zero, if_neg Bool.false_ne_true,
            BinaryFloat.ofRat_of_representable format.representable_zero]
          exact hzero
      | number value hvalue => exact hnumber hvalue

/-- The details of every float fit the types they are stored as. -/
theorem holds_convertFrom (hstored : Stored format)
    (item : BinaryFloat format) :
    IntType.int64.Holds (convertFrom item).mantissa ∧
      IntType.short.Holds (convertFrom item).exponent := by
  have hnumber : ∀ {value : ℚ} (hvalue : format.Representable value),
      IntType.int64.Holds
          (convertFrom (.finite (.number value hvalue))).mantissa ∧
        IntType.short.Holds
          (convertFrom (.finite (.number value hvalue))).exponent := by
    intro value hvalue
    obtain ⟨_, hmantissa, hexponent⟩ := convertFrom_number hstored hvalue
    constructor
    · exact IntType.holds_of_abs_lt <| hmantissa.trans_lt
        (pow_lt_pow_right₀ one_lt_two hstored.precision)
    · exact IntType.holds_of_abs_lt <|
        hexponent.trans_le (by norm_num [IntType.short])
  cases item with
  | nan => constructor <;> norm_num [IntType.Holds, convertFrom, IntType.int64,
      IntType.short, isNan]
  | infinity negative =>
      cases negative <;> constructor <;>
        norm_num [IntType.Holds, convertFrom, IntType.int64, IntType.short,
          isInf, isNinf]
  | finite x =>
      cases x with
      | negativeZero => exact hnumber format.representable_zero
      | number value hvalue => exact hnumber hvalue

end FloatDetails

/-- Every float survives the way through a file, but for the sign of a zero. -/
theorem decodes_serializeFloat (hstored : Stored format)
    (oldFormat : OldFormat (BinaryFloat format)) (old item : BinaryFloat format) :
    Decodes (deserializeFloat oldFormat old) (serializeFloat item)
      item.unsignZero := by
  obtain ⟨hmantissa, hexponent⟩ := FloatDetails.holds_convertFrom hstored item
  have hbinary : Decodes (deserializeBinary old) (serializeFloat item)
      item.unsignZero := by
    rw [← FloatDetails.convertTo_convertFrom hstored item]
    apply Decodes.andThen (decodes_packInt hmantissa hmantissa)
    exact (decodes_packInt hexponent hexponent).andThen_succeed
      fun exponent => FloatDetails.convertTo
        { mantissa := (FloatDetails.convertFrom item).mantissa, exponent }
  -- The first byte says that the format is the binary one.
  obtain ⟨control, hmantissaBytes, _, _, hcontrol⟩ :=
    packInt_eq .int64 (FloatDetails.convertFrom item).mantissa
  obtain ⟨others, hbytes⟩ : ∃ others, serializeFloat item = control :: others :=
    ⟨_, by rw [serializeFloat]; simp only [hmantissaBytes]; rfl⟩
  have hformat : ∀ rest, deserializeFloat oldFormat old (control :: rest) =
      deserializeBinary old (control :: rest) := by
    intro rest
    rw [deserializeFloat, if_pos hcontrol]
  rw [hbytes] at hbinary ⊢
  constructor
  · intro rest
    rw [List.cons_append, hformat]
    exact hbinary.whole rest
  · intro front hfront hne
    cases front with
    | nil => exact ⟨_, rfl⟩
    | cons first rest =>
        obtain ⟨rfl, _⟩ := List.cons_prefix_cons.mp hfront
        rw [hformat]
        exact hbinary.cut _ hfront hne

/-- The bytes do not tell the zeros apart. -/
theorem serializeFloat_unsignZero (item : BinaryFloat format) :
    serializeFloat item.unsignZero = serializeFloat item := by
  have hconvert : FloatDetails.convertFrom item.unsignZero =
      FloatDetails.convertFrom item := by
    cases item with
    | nan => rfl
    | infinity negative => rfl
    | finite x =>
        cases x with
        | negativeZero =>
            show FloatDetails.convertFrom (BinaryFloat.zero false) = _
            rw [BinaryFloat.zero, if_neg Bool.false_ne_true,
              BinaryFloat.ofRat_of_representable format.representable_zero]
            rfl
        | number value hvalue => rfl
  rw [serializeFloat, serializeFloat, hconvert]

/-- Floats in a stream: each is read as it was, but for the sign of a zero, and
what follows is left; a beginning is refused; and two streams are the same
exactly when their first floats are, signs of zeros apart, and what follows
them. -/
theorem float_stream (hstored : Stored format)
    (oldFormat : OldFormat (BinaryFloat format))
    (old item : BinaryFloat format) :
    (∀ rest, deserializeFloat oldFormat old (serializeFloat item ++ rest) =
        .value item.unsignZero rest) ∧
      (∀ front, front <+: serializeFloat item → front ≠ serializeFloat item →
        ∃ error, deserializeFloat oldFormat old front = .failed error) ∧
      ∀ (other : BinaryFloat format) (rest restOther : List UInt8),
        serializeFloat item ++ rest = serializeFloat other ++ restOther ↔
          item.unsignZero = other.unsignZero ∧ rest = restOther := by
  have hdecodes := decodes_serializeFloat hstored oldFormat old
  refine ⟨(hdecodes item).whole, (hdecodes item).cut, ?_⟩
  intro other rest restOther
  constructor
  · exact (hdecodes item).unique (hdecodes other)
  · rintro ⟨hitem, rfl⟩
    rw [← serializeFloat_unsignZero item, hitem, serializeFloat_unsignZero]

/-- Either zero of a `float`, in front of one more byte. -/
theorem float_stream_zero :
    let oldFormat : OldFormat (BinaryFloat binary32) :=
      fun item _ => .failed ⟨"", item⟩
    let written := serializeFloat (.finite .negativeZero : BinaryFloat binary32)
    deserializeFloat oldFormat .nan (written ++ [7]) = .value (.zero false) [7] ∧
      serializeFloat (.zero false : BinaryFloat binary32) = written := by
  intro oldFormat written
  obtain ⟨hread, _, hsame⟩ := float_stream stored_binary32 oldFormat .nan
    (.finite .negativeZero)
  refine ⟨hread [7], ?_⟩
  have hzero : (.zero false : BinaryFloat binary32).unsignZero = .zero false :=
    (BinaryFloat.unsignZero_eq _).trans (ite_self _)
  have hbytes := (hsame (.zero false) [] []).mpr ⟨hzero.symm, rfl⟩
  rw [List.append_nil, List.append_nil] at hbytes
  exact hbytes.symm

end Dlib
end ImportDlibDemo
