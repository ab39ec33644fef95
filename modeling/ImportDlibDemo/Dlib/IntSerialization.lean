import ImportDlibDemo.Dlib.Models
import ImportDlibDemo.Library.LittleEndianWord
import ImportDlibDemo.Library.PrefixDecoder
import Mathlib.Tactic

/-!
# How dlib stores integers

A control byte with the number of bytes and the sign, then the bytes of the
absolute value, the low one first and no more than it takes.  So a value does
not remember the type it was written from: it is read into any type that can
hold it, as between a computer whose `long` has eight bytes and a phone whose
`long` has four.

The least value of a signed type is written and read by the wrapping arithmetic
of the compilers, where it is its own negative.

A control byte that announces no bytes sends the loop that puts the value
together below the start of its buffer.
-/

namespace ImportDlibDemo
namespace Dlib

open Library.LittleEndianWord
open Library.PrefixDecoder

/-- A C++ integer type: its name in messages and its `sizeof`, which
`COMPILE_TIME_ASSERT` keeps at eight or less. -/
structure IntType where
  name : String
  size : Nat
  size_pos : 0 < size
  size_le : size ≤ 8

/-- `short`. -/
def IntType.short : IntType := ⟨"short", 2, by decide, by decide⟩

/-- `int`. -/
def IntType.int : IntType := ⟨"int", 4, by decide, by decide⟩

/-- `int64`. -/
def IntType.int64 : IntType := ⟨"int64", 8, by decide, by decide⟩

/-- The two sizes `long` has on the devices the library is built for. -/
inductive Platform
  | bits32
  | bits64
  deriving DecidableEq, Repr

/-- `long`. -/
def Platform.long : Platform → IntType
  | bits32 => ⟨"long", 4, by decide, by decide⟩
  | bits64 => ⟨"long", 8, by decide, by decide⟩

/-- `unsigned long`. -/
def Platform.unsignedLong : Platform → IntType
  | bits32 => ⟨"unsigned long", 4, by decide, by decide⟩
  | bits64 => ⟨"unsigned long", 8, by decide, by decide⟩

namespace IntType

/-- The signed type holds the value. -/
def Holds (type : IntType) (item : Int) : Prop :=
  -2 ^ (8 * type.size - 1) ≤ item ∧ item < 2 ^ (8 * type.size - 1)

instance (type : IntType) (item : Int) : Decidable (type.Holds item) :=
  inferInstanceAs (Decidable (_ ∧ _))

/-- The unsigned type holds the value. -/
def HoldsUnsigned (type : IntType) (item : Nat) : Prop :=
  item < 256 ^ type.size

/-- Arithmetic of the signed type wraps. -/
def wrap (type : IntType) (value : Int) : Int :=
  value.bmod (2 ^ (8 * type.size))

/-- The error of a `deserialize` of the type. -/
def readError (type : IntType) : String :=
  "Error deserializing object of type " ++ type.name

end IntType

/-- `ser_helper::pack_int` of a signed type. -/
def packInt (type : IntType) (item : Int) : List UInt8 :=
  let bytes := digitsOf type.size item.natAbs
  (UInt8.ofNat bytes.length ||| if item < 0 then 0x80 else 0) :: bytes

/-- `ser_helper::pack_int` of an unsigned type. -/
def packUnsigned (type : IntType) (item : Nat) : List UInt8 :=
  let bytes := digitsOf type.size item
  UInt8.ofNat bytes.length :: bytes

/-- The common part of both `unpack_int`s, behind the control byte. -/
def unpackBytes {T : Type} (type : IntType) (zero : T) (size : Nat)
    (assemble : List UInt8 → T) : Decoder (Broken T) T :=
  fun rest =>
    if type.size < size then .failed ⟨type.readError, zero⟩
    else if rest.length < size then .failed ⟨type.readError, zero⟩
    -- The loop starts at `size - 1`, which is 255 as an `unsigned char`.
    else if size = 0 then .undefined
    else .value (assemble (rest.take size)) (rest.drop size)

/-- `deserialize` of a signed type, with `ser_helper::unpack_int`. -/
def unpackInt (type : IntType) : Decoder (Broken Int) Int
  | [] => .failed ⟨type.readError, 0⟩
  | control :: rest =>
      unpackBytes type 0 (control &&& 0x0F).toNat
        (fun bytes =>
          let item := type.wrap (wordOf bytes)
          if control &&& 0x80 ≠ 0 then type.wrap (-item) else item)
        rest

/-- `deserialize` of an unsigned type.  The sign bit of the control byte counts
as a part of the size, which is too large then. -/
def unpackUnsigned (type : IntType) : Decoder (Broken Nat) Nat
  | [] => .failed ⟨type.readError, 0⟩
  | control :: rest =>
      unpackBytes type 0 (control &&& 0x8F).toNat wordOf rest

/-! ## What was written is read -/

/-- The two parts of a control byte. -/
theorem control_parts {size : Nat} (hsize : size ≤ 8) (sign : UInt8)
    (hsign : sign = 0x80 ∨ sign = 0) :
    ((UInt8.ofNat size ||| sign) &&& 0x0F).toNat = size ∧
      (UInt8.ofNat size ||| sign) &&& 0x80 = sign ∧
      (UInt8.ofNat size ||| sign) &&& 0x70 = 0 := by
  interval_cases size <;> rcases hsign with rfl | rfl <;> decide

theorem control_unsigned {size : Nat} (hsize : size ≤ 8) :
    (UInt8.ofNat size &&& 0x8F).toNat = size := by
  interval_cases size <;> decide

/-- The control byte of a signed integer: its low bits announce the bytes behind
it, the top bit is the sign, and the bits `0x70` are clear. -/
theorem packInt_eq (writer : IntType) (item : Int) :
    ∃ control, packInt writer item =
        control :: digitsOf writer.size item.natAbs ∧
      (control &&& 0x0F).toNat = (digitsOf writer.size item.natAbs).length ∧
      control &&& 0x80 = (if item < 0 then 0x80 else 0) ∧
      control &&& 0x70 = 0 := by
  have hlength : (digitsOf writer.size item.natAbs).length ≤ 8 :=
    (length_digitsOf_le_room _ _).trans writer.size_le
  exact ⟨_, rfl, control_parts hlength (if item < 0 then 0x80 else 0)
    (by split <;> simp)⟩

private theorem unpackBytes_append {T : Type} {type : IntType} {zero : T}
    {assemble : List UInt8 → T} {bytes : List UInt8} (hsome : 0 < bytes.length)
    (hsize : bytes.length ≤ type.size) (rest : List UInt8) :
    unpackBytes type zero bytes.length assemble (bytes ++ rest) =
      .value (assemble bytes) rest := by
  have hroom : ¬ (bytes ++ rest).length < bytes.length := by
    rw [List.length_append]
    omega
  unfold unpackBytes
  rw [if_neg (by omega), if_neg hroom, if_neg (by omega), List.take_left,
    List.drop_left]

private theorem unpackBytes_short {T : Type} {type : IntType} {zero : T}
    {assemble : List UInt8 → T} {size : Nat} {rest : List UInt8}
    (hshort : rest.length < size) :
    ∃ error, unpackBytes type zero size assemble rest = .failed error := by
  unfold unpackBytes
  rw [if_pos hshort]
  split
  · exact ⟨_, rfl⟩
  · exact ⟨_, rfl⟩

/-- Bytes that end inside a number end before its control byte, or have fewer
bytes than it announces. -/
private theorem cut_cases {front bytes : List UInt8} {control : UInt8}
    (hfront : front <+: control :: bytes) (hne : front ≠ control :: bytes) :
    front = [] ∨
      ∃ rest, front = control :: rest ∧ rest.length < bytes.length := by
  cases front with
  | nil => exact Or.inl rfl
  | cons first rest =>
      obtain ⟨rfl, hrest⟩ := List.cons_prefix_cons.mp hfront
      refine Or.inr ⟨rest, rfl, ?_⟩
      rcases hrest.length_le.lt_or_eq with hless | hequal
      · exact hless
      · exact absurd (by rw [hrest.eq_of_length hequal]) hne

theorem IntType.holds_of_abs_lt {type : IntType} {item : Int}
    (hitem : |item| < 2 ^ (8 * type.size - 1)) : type.Holds item :=
  ⟨(abs_lt.mp hitem).1.le, (abs_lt.mp hitem).2⟩

theorem IntType.int_holds_of_small {item : Int} (hitem : |item| < 256) :
    IntType.int.Holds item := by
  apply holds_of_abs_lt
  rw [int]
  norm_num
  omega

theorem IntType.wrap_of_holds {type : IntType} {item : Int}
    (hitem : type.Holds item) : type.wrap item = item := by
  have hsize := type.size_pos
  obtain ⟨hlow, hhigh⟩ := hitem
  have hpow : (2 : Int) ^ (8 * type.size) = 2 * 2 ^ (8 * type.size - 1) := by
    rw [← pow_succ']
    congr 1
    omega
  unfold wrap
  apply Int.bmod_eq_of_le
  · push_cast
    omega
  · push_cast
    omega

/-- The least value of a type is its own negative, so wrapping before a change
of sign makes no difference. -/
theorem IntType.wrap_neg_wrap (type : IntType) (value : Int) :
    type.wrap (-type.wrap value) = type.wrap (-value) := by
  have hwrap := Int.sub_bmod_bmod (x := 0) (y := value) (n := 2 ^ (8 * type.size))
  rwa [zero_sub, zero_sub] at hwrap

theorem IntType.natAbs_lt_of_holds {type : IntType} {item : Int}
    (hitem : type.Holds item) : item.natAbs < 256 ^ type.size := by
  have hsize := type.size_pos
  have hle : (item.natAbs : Int) ≤ 2 ^ (8 * type.size - 1) := by
    rw [Int.natCast_natAbs]
    exact abs_le.mpr ⟨hitem.1, hitem.2.le⟩
  have hnat : item.natAbs ≤ 2 ^ (8 * type.size - 1) := by exact_mod_cast hle
  calc item.natAbs ≤ 2 ^ (8 * type.size - 1) := hnat
    _ < 2 ^ (8 * type.size) := Nat.pow_lt_pow_right (by norm_num) (by omega)
    _ = 256 ^ type.size := by rw [pow_mul]; norm_num

/-- No type reads a beginning of a number. -/
theorem failed_of_cut_packInt {writer reader : IntType} {item : Int}
    {front : List UInt8} (hfront : front <+: packInt writer item)
    (hne : front ≠ packInt writer item) :
    ∃ error, unpackInt reader front = .failed error := by
  obtain ⟨control, hpack, hsize, _, _⟩ := packInt_eq writer item
  rw [hpack] at hfront hne
  rcases cut_cases hfront hne with rfl | ⟨rest, rfl, hshort⟩
  · exact ⟨_, rfl⟩
  · rw [unpackInt, hsize]
    exact unpackBytes_short hshort

/-- Every signed integer survives the way through a file, from any type that
holds it into any other one. -/
theorem decodes_packInt {writer reader : IntType} {item : Int}
    (hwriter : writer.Holds item) (hreader : reader.Holds item) :
    Decodes (unpackInt reader) (packInt writer item) item := by
  refine ⟨?_, fun front => failed_of_cut_packInt⟩
  intro rest
  have hlength : (digitsOf writer.size item.natAbs).length ≤ reader.size :=
    length_digitsOf_le reader.size_pos (IntType.natAbs_lt_of_holds hreader)
  have hsome := List.length_pos_of_ne_nil
    (digitsOf_ne_nil writer.size_pos item.natAbs)
  have hword := wordOf_digitsOf (IntType.natAbs_lt_of_holds hwriter)
  obtain ⟨control, hpack, hsize, hsign, _⟩ := packInt_eq writer item
  rw [hpack, List.cons_append, unpackInt, hsize,
    unpackBytes_append hsome hlength, hsign, hword, Int.natCast_natAbs]
  by_cases hnegative : item < 0
  · rw [if_pos hnegative, if_pos (by decide), abs_of_neg hnegative,
      IntType.wrap_neg_wrap, neg_neg, IntType.wrap_of_holds hreader]
  · rw [if_neg hnegative, if_neg (by decide), abs_of_nonneg (by omega),
      IntType.wrap_of_holds hreader]

/-- So does every unsigned one. -/
theorem decodes_packUnsigned {writer reader : IntType} {item : Nat}
    (hwriter : writer.HoldsUnsigned item)
    (hreader : reader.HoldsUnsigned item) :
    Decodes (unpackUnsigned reader) (packUnsigned writer item) item := by
  have hlength : (digitsOf writer.size item).length ≤ reader.size :=
    length_digitsOf_le reader.size_pos hreader
  have hsome := List.length_pos_of_ne_nil
    (digitsOf_ne_nil writer.size_pos item)
  have hword := wordOf_digitsOf hwriter
  unfold packUnsigned
  generalize digitsOf writer.size item = bytes at hlength hsome hword
  simp only
  have hsize := control_unsigned (hlength.trans reader.size_le)
  constructor
  · intro rest
    rw [List.cons_append, unpackUnsigned, hsize,
      unpackBytes_append hsome hlength, hword]
  · intro front hfront hne
    rcases cut_cases hfront hne with rfl | ⟨rest, rfl, hshort⟩
    · exact ⟨_, rfl⟩
    · rw [unpackUnsigned, hsize]
      exact unpackBytes_short hshort

/-! ## Between types -/

/-- The type a value was written from cannot be told from its bytes. -/
theorem packInt_congr {writer other : IntType} {item : Int}
    (hwriter : writer.Holds item) (hother : other.Holds item) :
    packInt writer item = packInt other item := by
  unfold packInt
  rw [digitsOf_congr writer.size_pos other.size_pos
    (IntType.natAbs_lt_of_holds hwriter) (IntType.natAbs_lt_of_holds hother)]

theorem packUnsigned_congr {writer other : IntType} {item : Nat}
    (hwriter : writer.HoldsUnsigned item) (hother : other.HoldsUnsigned item) :
    packUnsigned writer item = packUnsigned other item := by
  unfold packUnsigned
  rw [digitsOf_congr writer.size_pos other.size_pos hwriter hother]

/-- A number with more bytes than the type has is refused. -/
theorem failed_of_large_packInt {writer reader : IntType} {item : Int}
    (hwriter : writer.Holds item)
    (hlarge : 256 ^ reader.size ≤ item.natAbs) (rest : List UInt8) :
    unpackInt reader (packInt writer item ++ rest) =
      .failed ⟨reader.readError, 0⟩ := by
  have hmore := lt_length_digitsOf (IntType.natAbs_lt_of_holds hwriter) hlarge
  obtain ⟨control, hpack, hsize, _, _⟩ := packInt_eq writer item
  rw [hpack, List.cons_append, unpackInt, hsize, unpackBytes, if_pos hmore]

/-- An integer written from a type that holds it: any other such type writes the
same bytes; a type that holds it reads it, and leaves what follows; a type it
has too many bytes for refuses it; and no type reads a beginning of it. -/
theorem packInt_portable {writer : IntType} {item : Int}
    (hwriter : writer.Holds item) (reader : IntType) :
    (reader.Holds item → packInt reader item = packInt writer item ∧
        ∀ rest, unpackInt reader (packInt writer item ++ rest) =
          .value item rest) ∧
      (256 ^ reader.size ≤ item.natAbs →
        ∀ rest, unpackInt reader (packInt writer item ++ rest) =
          .failed ⟨reader.readError, 0⟩) ∧
      ∀ front, front <+: packInt writer item → front ≠ packInt writer item →
        ∃ error, unpackInt reader front = .failed error := by
  refine ⟨fun hreader => ⟨packInt_congr hreader hwriter, ?_⟩, ?_, ?_⟩
  · exact (decodes_packInt hwriter hreader).whole
  · exact failed_of_large_packInt hwriter
  · exact fun front => failed_of_cut_packInt

/-- The least `int` on its way into a `long` of eight bytes, and a `long` of eight
bytes that one of four has no room for. -/
theorem packInt_portable_long :
    let least := packInt .int (-2 ^ 31)
    let large := packInt Platform.bits64.long (2 ^ 40)
    (packInt Platform.bits64.long (-2 ^ 31) = least ∧
        ∀ rest, unpackInt Platform.bits64.long (least ++ rest) =
          .value (-2 ^ 31) rest) ∧
      (∀ front, front <+: least → front ≠ least →
        ∃ error, unpackInt Platform.bits64.long front = .failed error) ∧
      ∀ rest, unpackInt Platform.bits32.long (large ++ rest) =
        .failed ⟨Platform.bits32.long.readError, 0⟩ := by
  have hint : IntType.int.Holds (-2 ^ 31) := by decide
  have hlong : Platform.bits64.long.Holds (-2 ^ 31) := by decide
  have hlarge : Platform.bits64.long.Holds (2 ^ 40) := by decide
  obtain ⟨hread, _, hcut⟩ := packInt_portable hint Platform.bits64.long
  obtain ⟨_, hrefuse, _⟩ := packInt_portable hlarge Platform.bits32.long
  exact ⟨hread hlong, hcut, hrefuse (by decide)⟩

end Dlib
end ImportDlibDemo
