import ImportDlibDemo.NativeLib.ConvertBitmap

/-!
# Which colours `convertBitmapToArray2d` copies

Android stores an RGBA_8888 pixel as the bytes R, G, B, A.  Loaded as a
little-endian `uint32_t`, R is the low byte and A the high one, so the shifts by
24, 16 and 8 read A, B and G.  The array therefore holds `(A, B, G)` where the
bitmap holds `(R, G, B)`: the colours survive exactly where these coincide.
-/

namespace ImportDlibDemo
namespace NativeLib

open Dlib

/-- The bitmaps the conversion is meant for: RGBA_8888 with rows that hold
their pixels, padding allowed. -/
structure RgbaBitmap extends Bitmap where
  rgba : info.format = .rgba8888
  stride_ge : 4 * info.width ≤ info.stride

namespace RgbaBitmap

/-- Byte `channel` of pixel `(x, y)`; R, G, B, A are the bytes 0, 1, 2, 3. -/
def channel (bitmap : RgbaBitmap) (y x channel : Nat) : UInt8 :=
  bitmap.pixels (y * bitmap.info.stride + 4 * x + channel)

/-- The colour of pixel `(x, y)`. -/
def color (bitmap : RgbaBitmap) (y x : Nat) : RgbPixel where
  red := bitmap.channel y x 0
  green := bitmap.channel y x 1
  blue := bitmap.channel y x 2

/-- `out` is the bitmap: its size and, cell by cell, its colours. -/
structure CopiedTo (bitmap : RgbaBitmap) (out : Array2d RgbPixel) : Prop where
  rows : out.nr = bitmap.info.height
  columns : out.nc = bitmap.info.width
  colors : ∀ y x, y < bitmap.info.height → x < bitmap.info.width →
    out.cell y x = bitmap.color y x

/-- The platform calls succeed and the offsets of a row are `int`s. -/
structure Convertible (bitmap : RgbaBitmap) : Prop where
  getInfo : 0 ≤ bitmap.getInfo
  lockPixels : 0 ≤ bitmap.lockPixels
  offsets : bitmap.info.height = 0 ∨ bitmap.info.width ≤ 2 ^ 29

/-- Every pixel has equal A and R bytes and equal B and G bytes. -/
def ShiftedChannelsAgree (bitmap : RgbaBitmap) : Prop :=
  ∀ y x, y < bitmap.info.height → x < bitmap.info.width →
    bitmap.channel y x 3 = bitmap.channel y x 0 ∧
      bitmap.channel y x 2 = bitmap.channel y x 1

end RgbaBitmap

/-- The call came back without an exception. -/
def Conversion.ReturnsNormally (conversion : Conversion) : Prop :=
  conversion.thrown = [] ∧ conversion.undefined = false

section

variable {bitmap : RgbaBitmap}

theorem RgbaBitmap.rowsFit_iff :
    bitmap.RowsFit ↔ bitmap.info.height = 0 ∨ bitmap.info.width ≤ 2 ^ 29 := by
  have hstride := bitmap.stride_ge
  unfold Bitmap.RowsFit
  omega

/-- Of an RGBA_8888 bitmap the loops store the bytes A, B and G. -/
theorem RgbaBitmap.stored_address {y x : Nat} (hx : x < 2 ^ 29) :
    bitmap.stored (bitmap.address y x) =
      { red := bitmap.channel y x 3
        green := bitmap.channel y x 2
        blue := bitmap.channel y x 1 } := by
  rw [address_of_lt hx]
  rfl

/-- The normal end of a conversion: the size is right and every cell holds the
stored bytes of its pixel. -/
theorem convert_of_convertible (hconv : bitmap.Convertible)
    (out : Array2d RgbPixel) :
    let conversion := convertBitmapToArray2d bitmap.toBitmap out
    conversion.ReturnsNormally ∧
      conversion.out.nr = bitmap.info.height ∧
      conversion.out.nc = bitmap.info.width ∧
      ∀ y x, y < bitmap.info.height → x < bitmap.info.width →
        conversion.out.cell y x =
          { red := bitmap.channel y x 3
            green := bitmap.channel y x 2
            blue := bitmap.channel y x 1 } := by
  have hfit := RgbaBitmap.rowsFit_iff.mpr hconv.offsets
  obtain ⟨s, hs, hconvert⟩ :=
    convert_of_rowsFit out hconv.getInfo hconv.lockPixels hfit
  intro conversion
  have hconversion : conversion = _ := hconvert
  rw [hconversion]
  refine ⟨⟨?_, rfl⟩, hs.rows, hs.columns, ?_⟩
  · simp [formatException, bitmap.rgba]
  · intro y x hy hx
    have hwide : x < 2 ^ 29 := by
      have hoffsets := hconv.offsets
      omega
    have hcell := hs.cells y x hx (Or.inl hy)
    rw [RgbaBitmap.stored_address hwide] at hcell
    exact hcell

/-- A conversion comes back without an exception exactly for these bitmaps. -/
theorem returnsNormally_iff (out : Array2d RgbPixel) :
    (convertBitmapToArray2d bitmap.toBitmap out).ReturnsNormally ↔
      bitmap.Convertible := by
  constructor
  · rintro ⟨hthrown, hundefined⟩
    by_cases hinfo : 0 ≤ bitmap.getInfo
    · by_cases hlock : 0 ≤ bitmap.lockPixels
      · refine ⟨hinfo, hlock, ?_⟩
        by_contra hoffsets
        obtain ⟨s, _, hconvert⟩ := convert_of_not_rowsFit out hinfo hlock
          (mt RgbaBitmap.rowsFit_iff.mp hoffsets)
        rw [hconvert] at hundefined
        cases hundefined
      · rw [convert_of_lockPixels_failed out hinfo (by omega)] at hthrown
        simp at hthrown
    · rw [convert_of_getInfo_failed out (by omega)] at hthrown
      simp at hthrown
  · exact fun hconv => (convert_of_convertible hconv out).1

/-- The conversion is faithful exactly for the bitmaps whose shifted channels
agree: a normal return leaves the bitmap in `out` if and only if, should the
call return normally, every pixel has A = R and B = G. -/
theorem convert_faithful_iff (bitmap : RgbaBitmap) (out : Array2d RgbPixel) :
    ((convertBitmapToArray2d bitmap.toBitmap out).ReturnsNormally →
        bitmap.CopiedTo (convertBitmapToArray2d bitmap.toBitmap out).out) ↔
      (bitmap.Convertible → bitmap.ShiftedChannelsAgree) := by
  rw [returnsNormally_iff]
  refine imp_congr_right fun hconv => ?_
  obtain ⟨_, hrows, hcolumns, hcells⟩ := convert_of_convertible hconv out
  constructor
  · intro hcopied y x hy hx
    have hcolor := (hcells y x hy hx).symm.trans (hcopied.colors y x hy hx)
    exact ⟨congrArg RgbPixel.red hcolor, congrArg RgbPixel.green hcolor⟩
  · intro hagree
    refine ⟨hrows, hcolumns, ?_⟩
    intro y x hy hx
    obtain ⟨hred, hgreen⟩ := hagree y x hy hx
    rw [hcells y x hy hx, RgbaBitmap.color, hred, hgreen]

end

/-- One opaque green pixel: the bytes 0, 255, 0, 255. -/
def greenPixel : RgbaBitmap where
  getInfo := 0
  info :=
    { width := 1, height := 1, stride := 4, format := .rgba8888
      width_lt := by decide, height_lt := by decide, stride_lt := by decide }
  lockPixels := 0
  pixels := fun offset => if offset = 1 ∨ offset = 3 then 255 else 0
  rgba := rfl
  stride_ge := by decide

/-- The copy of an opaque green pixel returns normally and is magenta. -/
theorem greenPixel_becomes_magenta :
    (convertBitmapToArray2d greenPixel.toBitmap Array2d.new).ReturnsNormally ∧
      (convertBitmapToArray2d greenPixel.toBitmap Array2d.new).out.cell 0 0 =
        { red := 255, green := 0, blue := 255 } ∧
      ¬ greenPixel.CopiedTo
        (convertBitmapToArray2d greenPixel.toBitmap Array2d.new).out := by
  have hcell :
      (convertBitmapToArray2d greenPixel.toBitmap Array2d.new).out.cell 0 0 =
        { red := 255, green := 0, blue := 255 } := by
    decide
  refine ⟨⟨by decide, by decide⟩, hcell, ?_⟩
  intro hcopied
  have hcolor := hcopied.colors 0 0 (by decide) (by decide)
  rw [hcell] at hcolor
  exact absurd hcolor (by decide)

end NativeLib
end ImportDlibDemo
