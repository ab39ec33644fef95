import Mathlib.Tactic
import ImportDlibDemo.Dlib.Array2d
import ImportDlibDemo.Library.CountedLoop
import ImportDlibDemo.Library.LittleEndianWord

/-!
# `convertBitmapToArray2d`

The native function that copies a locked Android bitmap into a `dlib::array2d`.
What the platform answers (`AndroidBitmap_getInfo`, `AndroidBitmap_lockPixels`,
the locked bytes) is the `Bitmap`; what the call does is the `Conversion`: the
Java exceptions it throws, the byte offsets it reads from the pixel buffer, the
array afterwards, and whether the lock is still held.

A read outside the locked buffer has no defined effect, so the conversion stops
there with `undefined` set.  The index arithmetic `4 * w` is the `int` product
of the source.  It is taken on 32 bits; where it overflows, which C++ leaves
undefined as well, the offset of the first row is negative and the conversion
stops in the same way.
-/

namespace ImportDlibDemo
namespace NativeLib

open Dlib
open Library.CountedLoop
open Library.LittleEndianWord

/-- `AndroidBitmapFormat`. -/
inductive BitmapFormat
  | none
  | rgba8888
  | rgb565
  | rgba4444
  | a8
  deriving DecidableEq, Repr

/-- `AndroidBitmapInfo`.  The sizes are those of a Java `Bitmap`, so they are
Java `int`s; the stride is a `uint32_t`. -/
structure AndroidBitmapInfo where
  width : Nat
  height : Nat
  stride : Nat
  format : BitmapFormat
  width_lt : width < 2 ^ 31
  height_lt : height < 2 ^ 31
  stride_lt : stride < 2 ^ 32
  deriving DecidableEq, Repr

/-- What the platform answers about one bitmap: the result codes of
`AndroidBitmap_getInfo` and `AndroidBitmap_lockPixels` (negative for failure),
the info, and the bytes of the locked buffer. -/
structure Bitmap where
  getInfo : Int
  info : AndroidBitmapInfo
  lockPixels : Int
  pixels : Nat → UInt8

/-- The locked buffer has `height * stride` bytes. -/
def Bitmap.byteCount (bitmap : Bitmap) : Nat :=
  bitmap.info.height * bitmap.info.stride

/-- The value of a C `int` expression: two's complement on 32 bits. -/
def int32 (value : Int) : Int :=
  value.bmod (2 ^ 32)

/-- A byte offset inside the locked buffer. -/
def Bitmap.InBuffer (bitmap : Bitmap) (offset : Int) : Prop :=
  0 ≤ offset ∧ offset < bitmap.byteCount

instance (bitmap : Bitmap) (offset : Int) : Decidable (bitmap.InBuffer offset) :=
  inferInstanceAs (Decidable (_ ∧ _))

/-- The whole word at `offset` is inside the buffer. -/
def Bitmap.WordInBuffer (bitmap : Bitmap) (offset : Int) : Prop :=
  bitmap.InBuffer offset ∧ bitmap.InBuffer (offset + 3)

instance (bitmap : Bitmap) (offset : Int) :
    Decidable (bitmap.WordInBuffer offset) :=
  inferInstanceAs (Decidable (_ ∧ _))

/-- The four bytes of the `uint32_t` at `offset`. -/
def wordOffsets (offset : Int) : List Int :=
  [offset, offset + 1, offset + 2, offset + 3]

/-- `*(uint32_t*) (pixels + offset)` on a little-endian machine; `none` when
the load leaves the buffer. -/
def Bitmap.loadUInt32 (bitmap : Bitmap) (offset : Int) : Option Nat :=
  if bitmap.WordInBuffer offset then
    some (wordOf ((wordOffsets offset).map fun o => bitmap.pixels o.toNat))
  else
    none

/-- The state of the copying loops: the running row pointer `line` as an offset
into the buffer, the offsets read so far, and the array. -/
structure Copying where
  line : Int
  reads : List Int
  out : Array2d RgbPixel

/-- The body of the inner loop: load the pixel and store three of its bytes. -/
def copyPixel (bitmap : Bitmap) (h w : Nat) (s : Copying) :
    Except Copying Copying :=
  let color := s.line + int32 (4 * w)
  -- The source loads `*color` once for each channel, from the same four bytes.
  let s := { s with reads := s.reads ++ wordOffsets color }
  match bitmap.loadUInt32 color with
  | none => .error s
  | some value =>
      .ok { s with
        out := s.out.set h w
          { red := lowByte (value >>> 24)
            green := lowByte (value >>> 16)
            blue := lowByte (value >>> 8) } }

/-- The body of the outer loop: copy one row and advance `line`. -/
def copyRow (bitmap : Bitmap) (h : Nat) (s : Copying) : Except Copying Copying :=
  match loop (copyPixel bitmap h) bitmap.info.width s with
  | .error s => .error s
  | .ok s => .ok { s with line := s.line + bitmap.info.stride }

/-- What one call of `convertBitmapToArray2d` does. -/
structure Conversion where
  thrown : List String
  reads : List Int
  locked : Bool
  out : Array2d RgbPixel
  undefined : Bool

/-- The exception thrown for a format other than RGBA_8888. -/
def formatException (format : BitmapFormat) : List String :=
  if format ≠ .rgba8888 then ["Bitmap format is not RGB_565!"] else []

/-- `convertBitmapToArray2d`.  The branch that rejects the format throws but
does not return. -/
def convertBitmapToArray2d (bitmap : Bitmap) (out : Array2d RgbPixel) :
    Conversion :=
  if 0 > bitmap.getInfo then
    { thrown := ["AndroidBitmap_getInfo() failed!"]
      reads := [], locked := false, out := out, undefined := false }
  else
    -- There is no `return` behind this exception.
    let thrown := formatException bitmap.info.format
    if 0 > bitmap.lockPixels then
      { thrown := thrown ++ ["AndroidBitmap_lockPixels() failed!"]
        reads := [], locked := false, out := out, undefined := false }
    else
      let out := out.setSize bitmap.info.height bitmap.info.width
      match loop (copyRow bitmap) bitmap.info.height ⟨0, [], out⟩ with
      | .ok s =>
          -- `AndroidBitmap_unlockPixels` has been called.
          { thrown := thrown, reads := s.reads, locked := false
            out := s.out, undefined := false }
      | .error s =>
          { thrown := thrown, reads := s.reads, locked := true
            out := s.out, undefined := true }

/-! ## The copying loops -/

/-- The offset the loops load pixel `(x, y)` from. -/
def Bitmap.address (bitmap : Bitmap) (y x : Nat) : Int :=
  (y * bitmap.info.stride : Nat) + int32 (4 * x)

/-- The pixel the loops store for the word loaded at `offset`: the fourth byte
as red, the third as green, the second as blue. -/
def Bitmap.stored (bitmap : Bitmap) (offset : Int) : RgbPixel where
  red := bitmap.pixels (offset + 3).toNat
  green := bitmap.pixels (offset + 2).toNat
  blue := bitmap.pixels (offset + 1).toNat

/-- Pixel `(c, r)` has been visited when the loops stand at `(x, y)`. -/
def Visited (y x r c : Nat) : Prop :=
  r < y ∨ (r = y ∧ c < x)

/-- The invariant of both loops when they stand before pixel `(x, y)`. -/
structure Progress (bitmap : Bitmap) (y x : Nat) (s : Copying) : Prop where
  line : s.line = (y * bitmap.info.stride : Nat)
  rows : s.out.nr = bitmap.info.height
  columns : s.out.nc = bitmap.info.width
  cells : ∀ r c, c < bitmap.info.width → Visited y x r c →
    s.out.cell r c = bitmap.stored (bitmap.address r c)
  words : ∀ r c, c < bitmap.info.width → Visited y x r c →
    bitmap.WordInBuffer (bitmap.address r c)
  reads : ∀ offset ∈ s.reads, bitmap.InBuffer offset

/-- Every pixel the loops visit lies inside the buffer. -/
def Bitmap.AllWordsInBuffer (bitmap : Bitmap) : Prop :=
  ∀ y x, y < bitmap.info.height → x < bitmap.info.width →
    bitmap.WordInBuffer (bitmap.address y x)

/-- A copy that stopped: it has read outside the buffer, at a pixel that does
not lie inside. -/
structure ReadOutside (bitmap : Bitmap) (s : Copying) : Prop where
  reads : ∃ offset ∈ s.reads, ¬ bitmap.InBuffer offset
  pixel : ¬ bitmap.AllWordsInBuffer

theorem wordOffsets_inBuffer {bitmap : Bitmap} {start offset : Int}
    (hword : bitmap.WordInBuffer start) (hoffset : offset ∈ wordOffsets start) :
    bitmap.InBuffer offset := by
  have hlow := hword.1
  have hhigh := hword.2
  simp only [wordOffsets, List.mem_cons, List.not_mem_nil, or_false] at hoffset
  simp only [Bitmap.InBuffer] at hlow hhigh ⊢
  omega

theorem loadUInt32_of_wordInBuffer {bitmap : Bitmap} {offset : Int}
    (hword : bitmap.WordInBuffer offset) :
    bitmap.loadUInt32 offset =
      some (wordOf ((wordOffsets offset).map fun o => bitmap.pixels o.toNat)) :=
  if_pos hword

/-- The three shifts store the fourth, third and second byte of the word. -/
theorem stored_eq (bitmap : Bitmap) (offset : Int) :
    (let value :=
      wordOf ((wordOffsets offset).map fun o => bitmap.pixels o.toNat)
    ({ red := lowByte (value >>> 24)
       green := lowByte (value >>> 16)
       blue := lowByte (value >>> 8) } : RgbPixel)) = bitmap.stored offset := by
  have hbyte := lowByte_wordOf_shiftRight
    ((wordOffsets offset).map fun o => bitmap.pixels o.toNat)
  have hred := hbyte 3 (by simp [wordOffsets])
  have hgreen := hbyte 2 (by simp [wordOffsets])
  have hblue := hbyte 1 (by simp [wordOffsets])
  simp only [Nat.reduceMul] at hred hgreen hblue
  simp only [hred, hgreen, hblue, Bitmap.stored]
  simp [wordOffsets]

theorem copyPixel_of_wordInBuffer {bitmap : Bitmap} {y x : Nat} {s : Copying}
    (hs : s.line = (y * bitmap.info.stride : Nat))
    (hword : bitmap.WordInBuffer (bitmap.address y x)) :
    copyPixel bitmap y x s =
      .ok { s with
        reads := s.reads ++ wordOffsets (bitmap.address y x)
        out := s.out.set y x (bitmap.stored (bitmap.address y x)) } := by
  have haddress : s.line + int32 (4 * x) = bitmap.address y x := by
    rw [hs, Bitmap.address]
  have hstored := stored_eq bitmap (bitmap.address y x)
  unfold copyPixel
  simp only [haddress, loadUInt32_of_wordInBuffer hword]
  rw [← hstored]

theorem copyPixel_of_not_wordInBuffer {bitmap : Bitmap} {y x : Nat} {s : Copying}
    (hs : s.line = (y * bitmap.info.stride : Nat))
    (hword : ¬ bitmap.WordInBuffer (bitmap.address y x)) :
    copyPixel bitmap y x s =
      .error { s with
        reads := s.reads ++ wordOffsets (bitmap.address y x) } := by
  have haddress : s.line + int32 (4 * x) = bitmap.address y x := by
    rw [hs, Bitmap.address]
  have hload : bitmap.loadUInt32 (bitmap.address y x) = none := if_neg hword
  unfold copyPixel
  simp only [haddress, hload]

/-- Round of the inner loop: the next pixel is stored, or the copy stops with a
read outside the buffer. -/
theorem copyPixel_ends {bitmap : Bitmap} {y x : Nat} {s : Copying}
    (hy : y < bitmap.info.height) (hx : x < bitmap.info.width)
    (hs : Progress bitmap y x s) :
    Ends (copyPixel bitmap y x s) (Progress bitmap y (x + 1))
      (ReadOutside bitmap) := by
  by_cases hword : bitmap.WordInBuffer (bitmap.address y x)
  · rw [copyPixel_of_wordInBuffer hs.line hword]
    have hvisited : ∀ r c, Visited y (x + 1) r c →
        ¬ (r = y ∧ c = x) → Visited y x r c := by
      intro r c hvisited hne
      unfold Visited at hvisited ⊢
      omega
    constructor
    · exact hs.line
    · exact hs.rows
    · exact hs.columns
    · intro r c hc hrc
      by_cases hhere : r = y ∧ c = x
      · obtain ⟨rfl, rfl⟩ := hhere
        exact Array2d.set_cell_self r c _ s.out
      · -- Storing one cell leaves the visited ones alone.
        rw [Array2d.set_cell_of_ne _ _ hhere]
        exact hs.cells r c hc (hvisited r c hrc hhere)
    · intro r c hc hrc
      by_cases hhere : r = y ∧ c = x
      · obtain ⟨rfl, rfl⟩ := hhere
        exact hword
      · exact hs.words r c hc (hvisited r c hrc hhere)
    · intro offset hoffset
      rcases List.mem_append.mp hoffset with hold | hnew
      · exact hs.reads offset hold
      · exact wordOffsets_inBuffer hword hnew
  · rw [copyPixel_of_not_wordInBuffer hs.line hword]
    constructor
    · rcases not_and_or.mp hword with hlow | hhigh
      · exact ⟨bitmap.address y x, by simp [wordOffsets], hlow⟩
      · exact ⟨bitmap.address y x + 3, by simp [wordOffsets], hhigh⟩
    · exact fun hall => hword (hall y x hy hx)

/-- Round of the outer loop. -/
theorem copyRow_ends {bitmap : Bitmap} {y : Nat} {s : Copying}
    (hy : y < bitmap.info.height) (hs : Progress bitmap y 0 s) :
    Ends (copyRow bitmap y s) (Progress bitmap (y + 1) 0)
      (ReadOutside bitmap) := by
  have hrow : Ends (loop (copyPixel bitmap y) bitmap.info.width s)
      (Progress bitmap y bitmap.info.width) (ReadOutside bitmap) :=
    loop_ends (fun _ _ hx hs => copyPixel_ends hy hx hs) hs
  unfold copyRow
  cases hloop : loop (copyPixel bitmap y) bitmap.info.width s with
  | error e =>
      rw [hloop] at hrow
      exact hrow
  | ok s' =>
      rw [hloop] at hrow
      have hvisited : ∀ r c, c < bitmap.info.width → Visited (y + 1) 0 r c →
          Visited y bitmap.info.width r c := by
        intro r c hc hrc
        unfold Visited at hrc ⊢
        omega
      constructor
      · show s'.line + (bitmap.info.stride : Int) = _
        rw [hrow.line]
        push_cast
        ring
      · exact hrow.rows
      · exact hrow.columns
      · exact fun r c hc hrc => hrow.cells r c hc (hvisited r c hc hrc)
      · exact fun r c hc hrc => hrow.words r c hc (hvisited r c hc hrc)
      · exact hrow.reads

/-- Both loops, from the freshly sized array. -/
theorem copyRows_ends (bitmap : Bitmap) (out : Array2d RgbPixel) :
    Ends
      (loop (copyRow bitmap) bitmap.info.height
        ⟨0, [], out.setSize bitmap.info.height bitmap.info.width⟩)
      (Progress bitmap bitmap.info.height 0) (ReadOutside bitmap) := by
  have hstart : Progress bitmap 0 0
      ⟨0, [], out.setSize bitmap.info.height bitmap.info.width⟩ := by
    constructor
    · simp
    · simp
    · simp
    · intro r c _ hrc
      unfold Visited at hrc
      omega
    · intro r c _ hrc
      unfold Visited at hrc
      omega
    · simp
  have hround : ∀ y s, y < bitmap.info.height → Progress bitmap y 0 s →
      Ends (copyRow bitmap y s) (Progress bitmap (y + 1) 0)
        (ReadOutside bitmap) :=
    fun _ _ hy hs => copyRow_ends hy hs
  exact loop_ends hround hstart

/-! ## When the loops stay inside the buffer -/

/-- The rows fit: nothing to copy, or every row has its pixels within the
stride and the offsets of a row are `int`s. -/
def Bitmap.RowsFit (bitmap : Bitmap) : Prop :=
  bitmap.info.height = 0 ∨ bitmap.info.width = 0 ∨
    (4 * bitmap.info.width ≤ bitmap.info.stride ∧ bitmap.info.width ≤ 2 ^ 29)

instance (bitmap : Bitmap) : Decidable bitmap.RowsFit :=
  inferInstanceAs (Decidable (_ ∨ _ ∨ _))

theorem address_of_lt {bitmap : Bitmap} {y x : Nat} (hx : x < 2 ^ 29) :
    bitmap.address y x = (y * bitmap.info.stride + 4 * x : Nat) := by
  have hword : int32 (4 * x) = 4 * x :=
    Int.bmod_eq_of_le (by omega) (by omega)
  rw [Bitmap.address, hword]
  push_cast
  ring

theorem wordInBuffer_of_fits {bitmap : Bitmap} {y x : Nat}
    (hy : y < bitmap.info.height) (hx : x < bitmap.info.width)
    (hstride : 4 * bitmap.info.width ≤ bitmap.info.stride)
    (hwidth : bitmap.info.width ≤ 2 ^ 29) :
    bitmap.WordInBuffer (bitmap.address y x) := by
  have hrows : (y + 1) * bitmap.info.stride ≤ bitmap.byteCount :=
    Nat.mul_le_mul_right _ hy
  rw [Nat.succ_mul] at hrows
  rw [address_of_lt (by omega)]
  simp only [Bitmap.WordInBuffer, Bitmap.InBuffer]
  omega

/-- The copied pixels lie inside the buffer exactly when the rows fit.  Left to
right, the first row shows a width whose offsets overflow, and the last pixel of
the last row a stride that is too short. -/
theorem allWordsInBuffer_iff {bitmap : Bitmap} :
    bitmap.AllWordsInBuffer ↔ bitmap.RowsFit := by
  constructor
  · intro hall
    by_contra hfit
    simp only [Bitmap.RowsFit, not_or] at hfit
    obtain ⟨hheight, hwidth, hrow⟩ := hfit
    by_cases hwide : bitmap.info.width ≤ 2 ^ 29
    · obtain ⟨h, hh⟩ := Nat.exists_eq_succ_of_ne_zero hheight
      obtain ⟨w, hw⟩ := Nat.exists_eq_succ_of_ne_zero hwidth
      -- The last word of the last row ends behind the buffer.
      have hlast := (hall h w (by omega) (by omega)).2.2
      have hrows : bitmap.byteCount =
          h * bitmap.info.stride + bitmap.info.stride := by
        rw [Bitmap.byteCount, hh, Nat.succ_mul]
      rw [address_of_lt (by omega), hrows] at hlast
      omega
    · -- `4 * w` overflows at `w = 2 ^ 29` and becomes negative.
      have hfirst := (hall 0 (2 ^ 29) (by omega) (by omega)).1.1
      rw [Bitmap.address, Nat.zero_mul] at hfirst
      exact absurd hfirst (by decide)
  · rintro (hheight | hwidth | ⟨hstride, hwide⟩) y x hy hx
    · omega
    · omega
    · exact wordInBuffer_of_fits hy hx hstride hwide

theorem copyRows_of_rowsFit {bitmap : Bitmap} (hfit : bitmap.RowsFit)
    (out : Array2d RgbPixel) :
    ∃ s, loop (copyRow bitmap) bitmap.info.height
        ⟨0, [], out.setSize bitmap.info.height bitmap.info.width⟩ = .ok s ∧
      Progress bitmap bitmap.info.height 0 s := by
  have hends := copyRows_ends bitmap out
  cases hloop : loop (copyRow bitmap) bitmap.info.height
      ⟨0, [], out.setSize bitmap.info.height bitmap.info.width⟩ with
  | ok s =>
      rw [hloop] at hends
      exact ⟨s, rfl, hends⟩
  | error e =>
      rw [hloop] at hends
      exact absurd (allWordsInBuffer_iff.mpr hfit) hends.pixel

theorem copyRows_of_not_rowsFit {bitmap : Bitmap} (hfit : ¬ bitmap.RowsFit)
    (out : Array2d RgbPixel) :
    ∃ s, loop (copyRow bitmap) bitmap.info.height
        ⟨0, [], out.setSize bitmap.info.height bitmap.info.width⟩ = .error s ∧
      ReadOutside bitmap s := by
  have hends := copyRows_ends bitmap out
  cases hloop : loop (copyRow bitmap) bitmap.info.height
      ⟨0, [], out.setSize bitmap.info.height bitmap.info.width⟩ with
  | ok s =>
      rw [hloop] at hends
      have hall : bitmap.AllWordsInBuffer := fun y x hy hx =>
        hends.words y x hx (Or.inl hy)
      exact absurd (allWordsInBuffer_iff.mp hall) hfit
  | error e =>
      rw [hloop] at hends
      exact ⟨e, rfl, hends⟩

/-! ## The ends of a conversion -/

section ConversionEnds

variable {bitmap : Bitmap} (out : Array2d RgbPixel)

theorem convert_of_getInfo_failed (hinfo : bitmap.getInfo < 0) :
    convertBitmapToArray2d bitmap out =
      { thrown := ["AndroidBitmap_getInfo() failed!"]
        reads := [], locked := false, out := out, undefined := false } :=
  if_pos hinfo

theorem convert_of_lockPixels_failed (hinfo : 0 ≤ bitmap.getInfo)
    (hlock : bitmap.lockPixels < 0) :
    convertBitmapToArray2d bitmap out =
      { thrown := formatException bitmap.info.format ++
          ["AndroidBitmap_lockPixels() failed!"]
        reads := [], locked := false, out := out, undefined := false } := by
  unfold convertBitmapToArray2d
  rw [if_neg (by omega), if_pos hlock]

theorem convert_of_rowsFit (hinfo : 0 ≤ bitmap.getInfo)
    (hlock : 0 ≤ bitmap.lockPixels) (hfit : bitmap.RowsFit) :
    ∃ s, Progress bitmap bitmap.info.height 0 s ∧
      convertBitmapToArray2d bitmap out =
        { thrown := formatException bitmap.info.format
          reads := s.reads, locked := false, out := s.out
          undefined := false } := by
  obtain ⟨s, hloop, hs⟩ := copyRows_of_rowsFit hfit out
  refine ⟨s, hs, ?_⟩
  unfold convertBitmapToArray2d
  rw [if_neg (by omega), if_neg (by omega)]
  simp only [hloop]

theorem convert_of_not_rowsFit (hinfo : 0 ≤ bitmap.getInfo)
    (hlock : 0 ≤ bitmap.lockPixels) (hfit : ¬ bitmap.RowsFit) :
    ∃ s, ReadOutside bitmap s ∧
      convertBitmapToArray2d bitmap out =
        { thrown := formatException bitmap.info.format
          reads := s.reads, locked := true, out := s.out
          undefined := true } := by
  obtain ⟨s, hloop, hs⟩ := copyRows_of_not_rowsFit hfit out
  refine ⟨s, hs, ?_⟩
  unfold convertBitmapToArray2d
  rw [if_neg (by omega), if_neg (by omega)]
  simp only [hloop]

end ConversionEnds

end NativeLib
end ImportDlibDemo
