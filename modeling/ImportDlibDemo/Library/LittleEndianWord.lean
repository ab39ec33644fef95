import Mathlib.Data.Nat.Digits.Lemmas
import Mathlib.Tactic

/-!
# Words stored with the low byte first

The value of a byte sequence whose first byte is the least significant, and the
usual shift-and-mask expression that reads one byte back out of it.
-/

namespace ImportDlibDemo
namespace Library
namespace LittleEndianWord

/-- The unsigned value of the bytes, the first one least significant. -/
def wordOf (bytes : List UInt8) : Nat :=
  Nat.ofDigits 256 (bytes.map UInt8.toNat)

/-- The cast to an unsigned 8-bit value of a masked value: its low byte. -/
def lowByte (value : Nat) : UInt8 :=
  UInt8.ofNat (0xFF &&& value)

private theorem toNat_lt_256 (bytes : List UInt8) :
    ∀ digit ∈ bytes.map UInt8.toNat, digit < 256 := by
  intro digit hdigit
  obtain ⟨byte, _, rfl⟩ := List.mem_map.mp hdigit
  exact byte.toNat_lt

/-- Shifting a word right by whole bytes drops its first bytes. -/
theorem wordOf_shiftRight (bytes : List UInt8) (k : Nat) :
    wordOf bytes >>> (8 * k) = wordOf (bytes.drop k) := by
  rw [Nat.shiftRight_eq_div_pow, pow_mul]
  rw [wordOf, wordOf, List.map_drop]
  exact Nat.ofDigits_div_pow_eq_ofDigits_drop k (by norm_num) _
    (toNat_lt_256 bytes)

theorem lowByte_wordOf_cons (byte : UInt8) (rest : List UInt8) :
    lowByte (wordOf (byte :: rest)) = byte := by
  have hmod : wordOf (byte :: rest) % 256 = byte.toNat := by
    rw [wordOf, List.map_cons, Nat.ofDigits_cons]
    have hbyte := byte.toNat_lt
    omega
  rw [lowByte, Nat.and_comm, show (0xFF : Nat) = 2 ^ 8 - 1 by norm_num,
    Nat.and_two_pow_sub_one_eq_mod]
  apply UInt8.toNat_inj.mp
  simp [hmod]

/-- Shift and mask by `8 * k` bits reads byte `k`. -/
theorem lowByte_wordOf_shiftRight (bytes : List UInt8) (k : Nat)
    (hk : k < bytes.length) :
    lowByte (wordOf bytes >>> (8 * k)) = bytes[k] := by
  rw [wordOf_shiftRight, List.drop_eq_getElem_cons hk]
  exact lowByte_wordOf_cons bytes[k] _

/-! ## Words of fixed length -/

/-- The bytes of a word of `width` bytes, the least significant first. -/
def bytesOf : Nat → Nat → List UInt8
  | 0, _ => []
  | width + 1, value => UInt8.ofNat value :: bytesOf width (value / 256)

@[simp] theorem length_bytesOf (width value : Nat) :
    (bytesOf width value).length = width := by
  induction width generalizing value with
  | zero => rfl
  | succ width ih => rw [bytesOf, List.length_cons, ih]

/-! ## Words of variable length -/

/-- The bytes of a value, the least significant first, up to its last one that
is not zero; at least one byte and at most `room`. -/
def digitsOf : Nat → Nat → List UInt8
  | 0, _ => []
  | room + 1, value =>
      UInt8.ofNat value ::
        if value / 256 = 0 then [] else digitsOf room (value / 256)

theorem wordOf_cons (byte : UInt8) (rest : List UInt8) :
    wordOf (byte :: rest) = byte.toNat + 256 * wordOf rest := by
  rw [wordOf, List.map_cons, Nat.ofDigits_cons]
  rfl

/-- The bytes stand for the word. -/
theorem wordOf_bytesOf {width value : Nat} (hvalue : value < 256 ^ width) :
    wordOf (bytesOf width value) = value := by
  induction width generalizing value with
  | zero =>
      rw [pow_zero] at hvalue
      show Nat.ofDigits 256 [] = value
      simp only [Nat.ofDigits_nil]
      omega
  | succ width ih =>
      have hrest : value / 256 < 256 ^ width := by
        rw [pow_succ] at hvalue
        exact Nat.div_lt_of_lt_mul (by rwa [Nat.mul_comm] at hvalue)
      have hbyte : (UInt8.ofNat value).toNat = value % 256 := by simp
      rw [bytesOf, wordOf_cons, hbyte, ih hrest]
      omega

theorem wordOf_lt (bytes : List UInt8) : wordOf bytes < 256 ^ bytes.length := by
  have h := Nat.ofDigits_lt_base_pow_length (b := 256) (by norm_num)
    (toNat_lt_256 bytes)
  rwa [List.length_map] at h

/-- The bytes stand for the value, when there is room for it. -/
theorem wordOf_digitsOf {room value : Nat} (hvalue : value < 256 ^ room) :
    wordOf (digitsOf room value) = value := by
  induction room generalizing value with
  | zero =>
      rw [pow_zero] at hvalue
      rw [digitsOf]
      show Nat.ofDigits 256 [] = value
      simp only [Nat.ofDigits_nil]
      omega
  | succ room ih =>
      have hrest : value / 256 < 256 ^ room := by
        rw [pow_succ] at hvalue
        exact Nat.div_lt_of_lt_mul (by rwa [Nat.mul_comm] at hvalue)
      rw [digitsOf, wordOf_cons]
      have hbyte : (UInt8.ofNat value).toNat = value % 256 := by simp
      rw [hbyte]
      split
      · next hlast =>
          show value % 256 + 256 * Nat.ofDigits 256 [] = value
          simp only [Nat.ofDigits_nil]
          omega
      · rw [ih hrest]
        omega

theorem digitsOf_ne_nil {room : Nat} (hroom : 0 < room) (value : Nat) :
    digitsOf room value ≠ [] := by
  obtain ⟨room, rfl⟩ := Nat.exists_eq_succ_of_ne_zero hroom.ne'
  exact List.cons_ne_nil _ _

theorem length_digitsOf_le_room (room value : Nat) :
    (digitsOf room value).length ≤ room := by
  induction room generalizing value with
  | zero => exact Nat.le_refl 0
  | succ room ih =>
      rw [digitsOf, List.length_cons]
      split
      · exact Nat.succ_le_succ (Nat.zero_le room)
      · exact Nat.succ_le_succ (ih _)

/-- No more bytes are used than the value needs. -/
theorem length_digitsOf_le {room value bytes : Nat} (hbytes : 0 < bytes)
    (hvalue : value < 256 ^ bytes) :
    (digitsOf room value).length ≤ bytes := by
  induction room generalizing value bytes with
  | zero => exact Nat.zero_le _
  | succ room ih =>
      rw [digitsOf, List.length_cons]
      split
      · exact hbytes
      · next hmore =>
          obtain ⟨bytes, rfl⟩ := Nat.exists_eq_succ_of_ne_zero hbytes.ne'
          have hrest : value / 256 < 256 ^ bytes := by
            rw [Nat.succ_eq_add_one, pow_succ] at hvalue
            exact Nat.div_lt_of_lt_mul (by rwa [Nat.mul_comm] at hvalue)
          have hpos : 0 < bytes := by
            apply Nat.pos_of_ne_zero
            rintro rfl
            rw [pow_zero] at hrest
            omega
          have := ih hpos hrest
          omega

/-- What needs more bytes gets more bytes. -/
theorem lt_length_digitsOf {room value bytes : Nat} (hvalue : value < 256 ^ room)
    (hlarge : 256 ^ bytes ≤ value) : bytes < (digitsOf room value).length := by
  have hword := wordOf_lt (digitsOf room value)
  rw [wordOf_digitsOf hvalue] at hword
  exact (Nat.pow_lt_pow_iff_right (by norm_num)).mp (hlarge.trans_lt hword)

/-- The room does not matter as long as the value fits into it. -/
theorem digitsOf_congr {room other value : Nat} (hroom : 0 < room)
    (hother : 0 < other) (hvalue : value < 256 ^ room)
    (hvalueOther : value < 256 ^ other) :
    digitsOf room value = digitsOf other value := by
  induction room generalizing other value with
  | zero => exact absurd hroom (Nat.lt_irrefl 0)
  | succ room ih =>
      obtain ⟨other, rfl⟩ := Nat.exists_eq_succ_of_ne_zero hother.ne'
      have hrest : ∀ width, value < 256 ^ (width + 1) →
          value / 256 < 256 ^ width := by
        intro width hlt
        rw [pow_succ] at hlt
        exact Nat.div_lt_of_lt_mul (by rwa [Nat.mul_comm] at hlt)
      have hpos : ∀ width, value / 256 < 256 ^ width → value / 256 ≠ 0 →
          0 < width := by
        intro width hlt hmore
        apply Nat.pos_of_ne_zero
        rintro rfl
        rw [pow_zero] at hlt
        omega
      rw [digitsOf, digitsOf]
      split
      · rfl
      · next hmore =>
          have hthis := hrest room hvalue
          have hthat := hrest other hvalueOther
          rw [ih (hpos room hthis hmore) (hpos other hthat hmore) hthis hthat]

end LittleEndianWord
end Library
end ImportDlibDemo
