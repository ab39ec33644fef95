import Mathlib.Tactic

/-!
# Numbers in groups of seven bits

A number is stored seven bits a byte, the low ones first; the high bit of a byte
says that there are more.  `length_varintOf` counts the bytes by the logarithm
of the number.
-/

namespace ImportDlibDemo
namespace Library
namespace Base128

/-- The bytes of a number. -/
def varintOf (value : Nat) : List UInt8 :=
  if value < 0x80 then [UInt8.ofNat value]
  else UInt8.ofNat (value ||| 0x80) :: varintOf (value >>> 7)
termination_by value
decreasing_by
  rw [Nat.shiftRight_eq_div_pow]
  omega

/-- The number at the front of the bytes. -/
def readVarint : List UInt8 → Option (Nat × List UInt8)
  | [] => none
  | byte :: rest =>
      if byte < 0x80 then some (byte.toNat, rest)
      else do
        let (high, behind) ← readVarint rest
        return (byte.toNat % 0x80 + high <<< 7, behind)

theorem varintOf_small {value : Nat} (hsmall : value < 0x80) :
    varintOf value = [UInt8.ofNat value] := by
  rw [varintOf, if_pos hsmall]

theorem varintOf_large {value : Nat} (hlarge : 0x80 ≤ value) :
    varintOf value = UInt8.ofNat (value ||| 0x80) :: varintOf (value / 0x80) := by
  rw [varintOf, if_neg (by omega), Nat.shiftRight_eq_div_pow]

/-- The low seven bits with the high bit set. -/
theorem toNat_or_continue (value : Nat) :
    (UInt8.ofNat (value ||| 0x80)).toNat = value % 0x80 + 0x80 := by
  have hbyte : ∀ low : Fin (2 ^ 8),
      (low.val ||| 0x80) = low.val % 0x80 + 0x80 := by decide +kernel
  have hlow := hbyte ⟨value % 2 ^ 8, Nat.mod_lt _ (by norm_num)⟩
  simp only at hlow
  rw [UInt8.toNat_ofNat', Nat.or_mod_two_pow,
    show 0x80 % 2 ^ 8 = 0x80 from rfl, hlow]
  omega

/-- A number is read back, whatever follows it. -/
theorem readVarint_varintOf (value : Nat) (rest : List UInt8) :
    readVarint (varintOf value ++ rest) = some (value, rest) := by
  induction value using Nat.strongRecOn with
  | ind value ih =>
      rcases Nat.lt_or_ge value 0x80 with hsmall | hlarge
      · have hbyte : (UInt8.ofNat value).toNat = value := by
          rw [UInt8.toNat_ofNat']
          omega
        have hless : UInt8.ofNat value < 0x80 := by
          rw [UInt8.lt_iff_toNat_lt, hbyte]
          exact hsmall
        rw [varintOf_small hsmall, List.singleton_append, readVarint,
          if_pos hless, hbyte]
      · have hbyte := toNat_or_continue value
        have hmore : ¬ UInt8.ofNat (value ||| 0x80) < 0x80 := by
          rw [UInt8.lt_iff_toNat_lt, hbyte]
          show ¬ value % 0x80 + 0x80 < 0x80
          omega
        have hvalue : (value % 0x80 + 0x80) % 0x80 + (value / 0x80) <<< 7 =
            value := by
          rw [Nat.shiftLeft_eq]
          omega
        rw [varintOf_large hlarge, List.cons_append, readVarint, if_neg hmore,
          ih (value / 0x80) (by omega), hbyte]
        simp only [Option.bind_eq_bind, Option.bind_some, hvalue]
        rfl

theorem readVarint_shorter {bytes rest : List UInt8} {value : Nat}
    (hread : readVarint bytes = some (value, rest)) :
    rest.length < bytes.length := by
  induction bytes generalizing value with
  | nil => cases hread
  | cons byte bytes ih =>
      rw [readVarint] at hread
      split at hread
      · cases hread
        exact Nat.lt_succ_self _
      · obtain ⟨⟨high, behind⟩, hhigh, hsame⟩ := Option.bind_eq_some_iff.mp hread
        cases hsame
        exact (ih hhigh).trans (Nat.lt_succ_self _)

/-- A number takes a byte for every seven bits it has. -/
theorem length_varintOf (value : Nat) :
    (varintOf value).length = Nat.log2 value / 7 + 1 := by
  induction value using Nat.strongRecOn with
  | ind value ih =>
      rcases Nat.lt_or_ge value 0x80 with hsmall | hlarge
      · rw [varintOf_small hsmall, List.length_singleton]
        rcases Nat.eq_zero_or_pos value with rfl | hpos
        · rfl
        · have hlog : Nat.log2 value < 7 := (Nat.log2_lt hpos.ne').mpr hsmall
          omega
      · have hlog : Nat.log2 value = Nat.log2 (value / 0x80) + 7 := by
          rw [Nat.log2_eq_log_two, Nat.log2_eq_log_two,
            show 0x80 = 2 ^ 7 from rfl, Nat.log_div_base_pow]
          have hge : 7 ≤ Nat.log 2 value :=
            Nat.le_log_of_pow_le (by norm_num) hlarge
          omega
        rw [varintOf_large hlarge, List.length_cons, ih _ (by omega), hlog]
        omega

end Base128
end Library
end ImportDlibDemo
