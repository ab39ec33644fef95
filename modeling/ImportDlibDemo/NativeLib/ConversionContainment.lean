import ImportDlibDemo.NativeLib.EntryPoints

/-!
# When a failed conversion is contained

`convertBitmapToArray2d` reports a failure as a Java exception and every entry
point runs on behind it, so a failure is contained only where the entry point
never converts.  A successful conversion stays in the buffer when the rows fit.

* `DetectionRun.Contained` — what a detection call owes its caller;
* `Bitmap.Accepted` — the bitmaps whose conversion succeeds inside the buffer;
* `contained_iff` — the two coincide, early refusals apart.
-/

namespace ImportDlibDemo
namespace NativeLib

open Dlib

/-- A conversion that threw had no effect: it read no byte, left `out` alone and
holds no lock. -/
structure Conversion.WithoutEffect (conversion : Conversion)
    (out : Array2d RgbPixel) : Prop where
  reads : conversion.reads = []
  out : conversion.out = out
  unlocked : conversion.locked = false

/-- A detection call that stops where it stands: no detector, no result. -/
structure DetectionRun.Stopped {F : Type} (run : DetectionRun F) : Prop where
  returns : run.undefined = false
  detectors : run.detectorRuns = []
  result : run.result = none

/-- If the conversion throws, it has no effect and the call stops; if it throws
nothing, it reads inside the buffer. -/
structure DetectionRun.Contained {F : Type} (run : DetectionRun F)
    (bitmap : Bitmap) : Prop where
  onThrow : ∀ conversion, run.conversion = some conversion →
    conversion.thrown ≠ [] →
      conversion.WithoutEffect Array2d.new ∧ run.Stopped
  onSuccess : ∀ conversion, run.conversion = some conversion →
    conversion.thrown = [] →
      ∀ offset ∈ conversion.reads, bitmap.InBuffer offset

/-- The bitmap can be described and locked, is RGBA_8888, and its rows fit. -/
structure Bitmap.Accepted (bitmap : Bitmap) : Prop where
  getInfo : 0 ≤ bitmap.getInfo
  lockPixels : 0 ≤ bitmap.lockPixels
  format : bitmap.info.format = .rgba8888
  rows : bitmap.RowsFit

/-- The entry point refuses to work before it converts: only
`detectFacesAndLandmarks` looks at its detectors. -/
def EntryPoint.Refuses {F : Type} (entry : EntryPoint F)
    (globals : Globals F) : Prop :=
  match entry with
  | .detectFacesAndLandmarks =>
      globals.sFaceDetector.numDetectors = 0 ∨
        globals.sFaceLandmarksDetector.numParts = 0
  | .detectLandmarksFromFaces _ => False
  | .detectLegoToy => False

instance {F : Type} (entry : EntryPoint F) (globals : Globals F) :
    Decidable (entry.Refuses globals) := by
  cases entry <;> unfold EntryPoint.Refuses <;> infer_instance

theorem formatException_eq_nil_iff {format : BitmapFormat} :
    formatException format = [] ↔ format = .rgba8888 := by
  unfold formatException
  split
  · next hformat => simp [hformat]
  · next hformat => simpa using hformat

/-! ## The conversion -/

/-- The conversion ends without an exception and inside the buffer exactly for
the accepted bitmaps. -/
theorem convert_clean_iff {bitmap : Bitmap} (out : Array2d RgbPixel) :
    ((convertBitmapToArray2d bitmap out).thrown = [] ∧
      ∀ offset ∈ (convertBitmapToArray2d bitmap out).reads,
        bitmap.InBuffer offset) ↔ bitmap.Accepted := by
  constructor
  · rintro ⟨hthrown, hreads⟩
    by_cases hinfo : 0 ≤ bitmap.getInfo
    · by_cases hlock : 0 ≤ bitmap.lockPixels
      · by_cases hfit : bitmap.RowsFit
        · obtain ⟨s, _, hconvert⟩ := convert_of_rowsFit out hinfo hlock hfit
          rw [hconvert] at hthrown
          exact ⟨hinfo, hlock, formatException_eq_nil_iff.mp hthrown, hfit⟩
        · -- Whatever was thrown, a byte outside the buffer has been read.
          obtain ⟨s, hs, hconvert⟩ :=
            convert_of_not_rowsFit out hinfo hlock hfit
          obtain ⟨offset, hread, houtside⟩ := hs.reads
          rw [hconvert] at hreads
          exact absurd (hreads offset hread) houtside
      · rw [convert_of_lockPixels_failed out hinfo (by omega)] at hthrown
        simp at hthrown
    · rw [convert_of_getInfo_failed out (by omega)] at hthrown
      simp at hthrown
  · intro haccepted
    obtain ⟨s, hs, hconvert⟩ := convert_of_rowsFit out haccepted.getInfo
      haccepted.lockPixels haccepted.rows
    rw [hconvert]
    exact ⟨formatException_eq_nil_iff.mpr haccepted.format, hs.reads⟩

/-- An accepted bitmap is converted whole: every cell holds its stored pixel. -/
theorem convert_of_accepted {bitmap : Bitmap}
    (haccepted : bitmap.Accepted) (out : Array2d RgbPixel) :
    (convertBitmapToArray2d bitmap out).undefined = false ∧
      (convertBitmapToArray2d bitmap out).thrown = [] ∧
      (convertBitmapToArray2d bitmap out).out.nr = bitmap.info.height ∧
      (convertBitmapToArray2d bitmap out).out.nc = bitmap.info.width ∧
      ∀ y x, y < bitmap.info.height → x < bitmap.info.width →
        (convertBitmapToArray2d bitmap out).out.cell y x =
          bitmap.stored (bitmap.address y x) := by
  obtain ⟨s, hs, hconvert⟩ := convert_of_rowsFit out haccepted.getInfo
    haccepted.lockPixels haccepted.rows
  rw [hconvert]
  exact ⟨rfl, formatException_eq_nil_iff.mpr haccepted.format, hs.rows,
    hs.columns, fun y x hy hx => hs.cells y x hx (Or.inl hy)⟩

/-! ## The entry points -/

section EntryPoints

variable {F : Type} {bitmap : Bitmap}

/-- A call that goes on behind its conversion never stops at it: it has lost
all meaning or built a result. -/
theorem convertThen_not_stopped
    (body : Array2d RgbPixel → List DetectorRun × List (Face F)) :
    ¬ (convertThen bitmap body).Stopped := by
  intro hstopped
  by_cases hundefined :
      (convertBitmapToArray2d bitmap Array2d.new).undefined = true
  · have hreturns := hstopped.returns
    simp [convertThen, hundefined] at hreturns
  · have hresult := hstopped.result
    simp [convertThen, hundefined] at hresult

theorem convertThen_conversion
    (body : Array2d RgbPixel → List DetectorRun × List (Face F)) :
    (convertThen bitmap body).conversion =
      some (convertBitmapToArray2d bitmap Array2d.new) := by
  by_cases hundefined :
      (convertBitmapToArray2d bitmap Array2d.new).undefined = true
  · simp [convertThen, hundefined]
  · simp [convertThen, hundefined]

theorem convertThen_contained_iff
    (body : Array2d RgbPixel → List DetectorRun × List (Face F)) :
    (convertThen bitmap body).Contained bitmap ↔ bitmap.Accepted := by
  have hconversion : (convertThen bitmap body).conversion = _ :=
    convertThen_conversion body
  rw [← convert_clean_iff Array2d.new]
  constructor
  · intro hcontained
    -- A throw would have to stop the call, and nothing stops it.
    have hthrown : (convertBitmapToArray2d bitmap Array2d.new).thrown = [] := by
      by_contra hthrown
      exact convertThen_not_stopped body
        (hcontained.onThrow _ hconversion hthrown).2
    exact ⟨hthrown, hcontained.onSuccess _ hconversion hthrown⟩
  · rintro ⟨hthrown, hreads⟩
    constructor
    · intro conversion hsome hthrows
      rw [hconversion] at hsome
      cases hsome
      exact absurd hthrown hthrows
    · intro conversion hsome _
      rw [hconversion] at hsome
      cases hsome
      exact hreads

theorem refused_contained (message : String) :
    (DetectionRun.refused message : DetectionRun F).Contained bitmap := by
  constructor
  · intro conversion hsome
    cases hsome
  · intro conversion hsome
    cases hsome

/-- An entry point refuses at once, or it converts the bitmap and goes on. -/
theorem run_cases [CFloat F] (dlib : DlibRuntime F) (globals : Globals F)
    (bitmap : Bitmap) (entry : EntryPoint F) :
    (entry.Refuses globals ∧
        ∃ message, entry.run dlib globals bitmap = .refused message) ∨
      (¬ entry.Refuses globals ∧
        ∃ body, entry.run dlib globals bitmap = convertThen bitmap body) := by
  cases entry with
  | detectFacesAndLandmarks =>
      show ((globals.sFaceDetector.numDetectors = 0 ∨
          globals.sFaceLandmarksDetector.numParts = 0) ∧
        ∃ message, detectFacesAndLandmarks dlib globals bitmap =
          .refused message) ∨
        (¬ (globals.sFaceDetector.numDetectors = 0 ∨
          globals.sFaceLandmarksDetector.numParts = 0) ∧
        ∃ body, detectFacesAndLandmarks dlib globals bitmap =
          convertThen bitmap body)
      unfold detectFacesAndLandmarks
      by_cases hfaces : globals.sFaceDetector.numDetectors = 0
      · rw [if_pos hfaces]
        exact Or.inl ⟨Or.inl hfaces, _, rfl⟩
      · rw [if_neg hfaces]
        by_cases hparts : globals.sFaceLandmarksDetector.numParts = 0
        · rw [if_pos hparts]
          exact Or.inl ⟨Or.inr hparts, _, rfl⟩
        · rw [if_neg hparts]
          exact Or.inr ⟨not_or.mpr ⟨hfaces, hparts⟩, _, rfl⟩
  | detectLandmarksFromFaces faceRects =>
      right
      refine ⟨id, ?_⟩
      show ∃ body, detectLandmarksFromFaces dlib globals bitmap faceRects =
        convertThen bitmap body
      unfold detectLandmarksFromFaces
      exact ⟨_, rfl⟩
  | detectLegoToy =>
      right
      refine ⟨id, ?_⟩
      show ∃ body, detectLegoToy dlib globals bitmap = convertThen bitmap body
      unfold detectLegoToy
      exact ⟨_, rfl⟩

/-- A detection call is contained exactly when it refuses to work before
converting, or the bitmap is accepted. -/
theorem contained_iff [CFloat F] (dlib : DlibRuntime F) (globals : Globals F)
    (bitmap : Bitmap) (entry : EntryPoint F) :
    (entry.run dlib globals bitmap).Contained bitmap ↔
      entry.Refuses globals ∨ bitmap.Accepted := by
  rcases run_cases dlib globals bitmap entry with
    ⟨hrefuses, message, hrun⟩ | ⟨hrefuses, body, hrun⟩
  · rw [hrun]
    exact iff_of_true (refused_contained message) (Or.inl hrefuses)
  · rw [hrun, convertThen_contained_iff]
    exact (or_iff_right hrefuses).symm

end EntryPoints

/-- Two rows of three RGB_565 pixels, six bytes each. -/
def rgb565Bitmap : Bitmap where
  getInfo := 0
  info :=
    { width := 3, height := 2, stride := 6, format := .rgb565
      width_lt := by decide, height_lt := by decide, stride_lt := by decide }
  lockPixels := 0
  pixels := fun _ => 0

/-- The format of `rgb565Bitmap` is rejected, and yet its rows are read as rows
of three RGBA_8888 pixels, past the end of the buffer. -/
theorem rgb565_is_rejected_and_read :
    let run := (EntryPoint.detectLegoToy : EntryPoint ℚ).run
      { detect := fun _ _ => [], predict := fun _ _ _ => []
        frontalFaceDetector := ObjectDetector.new }
      Globals.loaded rgb565Bitmap
    run.thrown = ["Bitmap format is not RGB_565!"] ∧
      run.undefined = true ∧ ¬ run.Contained rgb565Bitmap := by
  intro run
  refine ⟨by decide, by decide, ?_⟩
  intro hcontained
  have hreads := (hcontained.onThrow _ rfl (by decide)).1.reads
  exact absurd hreads (by decide)

/-- With rows wide enough for the reads, the exception of a rejected ALPHA_8
bitmap stays pending while the detector runs and a result is built. -/
example :
    let run := (EntryPoint.detectLegoToy : EntryPoint ℚ).run
      { detect := fun _ _ => [], predict := fun _ _ _ => []
        frontalFaceDetector := ObjectDetector.new }
      Globals.loaded
      { rgb565Bitmap with
        info := { rgb565Bitmap.info with format := .a8, width := 1
                                         width_lt := by decide } }
    run.thrown = ["Bitmap format is not RGB_565!"] ∧
      run.detectorRuns = [.toyDetector] ∧ run.result = some [] := by
  decide

end NativeLib
end ImportDlibDemo
