import ImportDlibDemo.Dlib.ObjectDetection
import ImportDlibDemo.Dlib.ShapePrediction
import ImportDlibDemo.NativeLib.ConversionContainment
import ImportDlibDemo.NativeLib.ConvertBitmapChannels

/-!
# What dlib's algorithms see of a bitmap

dlib's detector and predictor in the place of the `DlibRuntime`.  The conversion
takes three of the four bytes of a pixel, and not the red one, so no entry point
tells bitmaps apart that differ in red only (`run_of_seenAlike`).  The predictor
takes the mean of the three, and no more than that (`landmarks_of_grey`).
-/

namespace ImportDlibDemo
namespace NativeLib

open Dlib
open Library.CountedLoop

/-- dlib's own algorithms: the boxes the detector keeps, and the parts its
predictor places.  Of what is undefined there are none. -/
def dlibAlgorithms {F : Type} [ShapeFloat F] (std : DescendingSort)
    (scanner : FhogScanner) (geometry : ShapeGeometry F)
    (frontalFaceDetector : ObjectDetector) : DlibRuntime F where
  detect detector img :=
    ((detector.finalDets std scanner img).getD []).map RectDetection.rect
  predict predictor img rect := (predictor.run geometry img rect).getD []
  frontalFaceDetector := frontalFaceDetector

/-- A well-formed predictor places all its parts. -/
theorem length_predict {F : Type} [ShapeFloat F] (std : DescendingSort)
    (scanner : FhogScanner) (geometry : ShapeGeometry F)
    (frontalFaceDetector : ObjectDetector)
    {predictor : ShapePredictor F} (hwell : predictor.WellFormed)
    (img : Array2d RgbPixel) (rect : Rectangle) :
    ((dlibAlgorithms std scanner geometry frontalFaceDetector).predict predictor
      img rect).length = predictor.numParts := by
  obtain ⟨parts, hrun, hlength⟩ : ∃ parts,
      predictor.run geometry img rect = some parts ∧
        parts.length = predictor.numParts :=
    ShapePredictor.exists_run hwell img rect
  show ((predictor.run geometry img rect).getD []).length = predictor.numParts
  rw [hrun]
  exact hlength

/-! ## Bitmaps that differ in red -/

/-- The platform answers the same about both bitmaps, and their pixels agree in
all but the first byte. -/
structure Bitmap.SeenAlike (bitmap other : Bitmap) : Prop where
  getInfo : bitmap.getInfo = other.getInfo
  info : bitmap.info = other.info
  lockPixels : bitmap.lockPixels = other.lockPixels
  pixels : ∀ y x, y < bitmap.info.height → x < bitmap.info.width →
    ∀ k ∈ [1, 2, 3],
      bitmap.pixels (bitmap.address y x + k).toNat =
        other.pixels (bitmap.address y x + k).toNat

section SeenAlike

variable {bitmap other : Bitmap}

/-- The row pointer stands at row `y`. -/
def AtRow (bitmap : Bitmap) (y : Nat) (s : Copying) : Prop :=
  s.line = (y * bitmap.info.stride : Nat)

theorem Bitmap.SeenAlike.address (halike : bitmap.SeenAlike other) (y x : Nat) :
    other.address y x = bitmap.address y x := by
  rw [Bitmap.address, Bitmap.address, halike.info]

theorem Bitmap.SeenAlike.wordInBuffer (halike : bitmap.SeenAlike other)
    (offset : Int) : other.WordInBuffer offset ↔ bitmap.WordInBuffer offset := by
  unfold Bitmap.WordInBuffer Bitmap.InBuffer Bitmap.byteCount
  rw [halike.info]

theorem Bitmap.SeenAlike.stored (halike : bitmap.SeenAlike other) {y x : Nat}
    (hy : y < bitmap.info.height) (hx : x < bitmap.info.width) :
    other.stored (bitmap.address y x) = bitmap.stored (bitmap.address y x) := by
  have hbyte := halike.pixels y x hy hx
  unfold Bitmap.stored
  rw [hbyte 1 (by simp), hbyte 2 (by simp), hbyte 3 (by simp)]

/-- Both copies of a pixel store the same, or both stop. -/
theorem copyPixel_of_seenAlike (halike : bitmap.SeenAlike other) {y x : Nat}
    {s : Copying} (hy : y < bitmap.info.height) (hx : x < bitmap.info.width)
    (hs : AtRow bitmap y s) :
    copyPixel bitmap y x s = copyPixel other y x s := by
  have hother : s.line = (y * other.info.stride : Nat) := by
    rw [← halike.info]
    exact hs
  by_cases hword : bitmap.WordInBuffer (bitmap.address y x)
  · have hwordOther : other.WordInBuffer (other.address y x) := by
      rw [halike.address]
      exact (halike.wordInBuffer _).mpr hword
    rw [copyPixel_of_wordInBuffer hs hword,
      copyPixel_of_wordInBuffer hother hwordOther, halike.address,
      halike.stored hy hx]
  · have hwordOther : ¬ other.WordInBuffer (other.address y x) := by
      rw [halike.address]
      exact fun h => hword ((halike.wordInBuffer _).mp h)
    rw [copyPixel_of_not_wordInBuffer hs hword,
      copyPixel_of_not_wordInBuffer hother hwordOther, halike.address]

theorem copyPixel_line {y x : Nat} {s next : Copying}
    (hcopy : copyPixel bitmap y x s = .ok next) : next.line = s.line := by
  unfold copyPixel at hcopy
  simp only at hcopy
  split at hcopy
  · cases hcopy
  · cases hcopy
    rfl

/-- Rows of bitmaps that are seen alike are copied alike, and the pointer goes
on to the next one. -/
theorem copyRow_of_seenAlike (halike : bitmap.SeenAlike other) {y : Nat}
    {s : Copying} (hy : y < bitmap.info.height) (hs : AtRow bitmap y s) :
    copyRow bitmap y s = copyRow other y s ∧
      ∀ next, copyRow bitmap y s = .ok next → AtRow bitmap (y + 1) next := by
  have hpixel : ∀ x s, x < bitmap.info.width → AtRow bitmap y s →
      copyPixel bitmap y x s = copyPixel other y x s ∧
        ∀ next, copyPixel bitmap y x s = .ok next → AtRow bitmap y next :=
    fun x s hx hs => ⟨copyPixel_of_seenAlike halike hy hx hs,
      fun next hcopy => (copyPixel_line hcopy).trans hs⟩
  have hrow : loop (copyPixel bitmap y) bitmap.info.width s =
      loop (copyPixel other y) bitmap.info.width s := loop_congr hpixel hs
  constructor
  · unfold copyRow
    rw [← halike.info, hrow]
  · intro next hcopy
    have hround : ∀ x s, x < bitmap.info.width → AtRow bitmap y s →
        Ends (copyPixel bitmap y x s) (AtRow bitmap y) fun _ => True := by
      intro x s hx hs
      cases hresult : copyPixel bitmap y x s with
      | error e => trivial
      | ok next => exact (hpixel x s hx hs).2 next hresult
    have hends : Ends (loop (copyPixel bitmap y) bitmap.info.width s)
        (AtRow bitmap y) fun _ => True := loop_ends hround hs
    unfold copyRow at hcopy
    cases hloop : loop (copyPixel bitmap y) bitmap.info.width s with
    | error e =>
        rw [hloop] at hcopy
        cases hcopy
    | ok last =>
        rw [hloop] at hcopy hends
        cases hcopy
        have hline : last.line = (y * bitmap.info.stride : Nat) := hends
        show last.line + (bitmap.info.stride : Int) = _
        rw [hline]
        push_cast
        ring

/-- The conversion does not look at the first byte of a pixel. -/
theorem convert_of_seenAlike (halike : bitmap.SeenAlike other)
    (out : Array2d RgbPixel) :
    convertBitmapToArray2d bitmap out = convertBitmapToArray2d other out := by
  have hrows : ∀ out, loop (copyRow bitmap) bitmap.info.height ⟨0, [], out⟩ =
      loop (copyRow other) bitmap.info.height ⟨0, [], out⟩ := by
    intro out
    have hstart : AtRow bitmap 0 ⟨0, [], out⟩ := by simp [AtRow]
    exact loop_congr (fun y s hy hs => copyRow_of_seenAlike halike hy hs) hstart
  unfold convertBitmapToArray2d
  rw [← halike.getInfo, ← halike.lockPixels, ← halike.info]
  simp only [hrows]

variable {F : Type} [CFloat F]

/-- No entry point tells bitmaps apart that differ in red only: they convert,
fail, detect and answer alike. -/
theorem run_of_seenAlike (halike : bitmap.SeenAlike other)
    (dlib : DlibRuntime F) (globals : Globals F) (entry : EntryPoint F) :
    entry.run dlib globals bitmap = entry.run dlib globals other := by
  have hconvert : ∀ body : Array2d RgbPixel → List DetectorRun × List (Face F),
      convertThen bitmap body = convertThen other body := by
    intro body
    unfold convertThen
    rw [convert_of_seenAlike halike]
  cases entry with
  | detectFacesAndLandmarks =>
      simp only [EntryPoint.run, detectFacesAndLandmarks, hconvert]
  | detectLandmarksFromFaces faceRects =>
      simp only [EntryPoint.run, detectLandmarksFromFaces, hconvert]
  | detectLegoToy => simp only [EntryPoint.run, detectLegoToy, hconvert]

end SeenAlike

/-- Parts lie as many pixels from the corner of the rectangle as they say. -/
def pixelGeometry {F : Type} [CFloat F] : ShapeGeometry F where
  similarity _ _ := id
  unnormalize rect part :=
    ⟨rect.left + CFloat.toLong part.1, rect.top + CFloat.toLong part.2⟩

/-- The score of a filter is the blue of the only pixel. -/
def blueScanner : FhogScanner where
  levels _ _ img :=
    [{ area := ⟨0, 0, img.nc - 1, img.nr - 1⟩
       saliency := fun r c => .ofInt (img.cell r.toNat c.toNat).blue.toNat
       toImage := fun p => ⟨p.x, p.y, p.x, p.y⟩ }]

/-- A yellow pixel: the green one, and red. -/
def yellowPixel : Bitmap :=
  { greenPixel.toBitmap with
    pixels := fun offset => if offset = 2 then 0 else 255 }

theorem seenAlike_yellowPixel : greenPixel.toBitmap.SeenAlike yellowPixel := by
  refine ⟨rfl, rfl, rfl, ?_⟩
  intro y x hy hx k hk
  have hy0 : y = 0 := Nat.lt_one_iff.mp hy
  have hx0 : x = 0 := Nat.lt_one_iff.mp hx
  subst hy0 hx0
  simp only [List.mem_cons, List.not_mem_nil, or_false] at hk
  rcases hk with rfl | rfl | rfl
  · decide
  · decide
  · decide

/-- In a library whose toys look at the pixels. -/
theorem run_of_yellowPixel :
    let dlib := dlibAlgorithms .stable blueScanner
      (pixelGeometry : ShapeGeometry ℚ) oneFilter
    let globals : Globals ℚ := { Globals.loaded with sToyDetector := oneFilter }
    EntryPoint.detectLegoToy.run dlib globals greenPixel.toBitmap =
      EntryPoint.detectLegoToy.run dlib globals yellowPixel := by
  intro dlib globals
  exact run_of_seenAlike seenAlike_yellowPixel dlib globals .detectLegoToy

/-- There is one toy in the pixel. -/
example :
    (EntryPoint.detectLegoToy.run
      (dlibAlgorithms .stable blueScanner (pixelGeometry : ShapeGeometry ℚ)
        oneFilter)
      { Globals.loaded with sToyDetector := oneFilter }
      yellowPixel).result.map List.length = some 1 := by
  decide +kernel

/-! ## Bitmaps of the same grey -/

section Grey

variable {bitmap other : Bitmap}

/-- The sizes agree, and so do the intensities of the stored pixels. -/
structure Bitmap.SameGrey (bitmap other : Bitmap) : Prop where
  height : bitmap.info.height = other.info.height
  width : bitmap.info.width = other.info.width
  intensity : ∀ y x, y < bitmap.info.height → x < bitmap.info.width →
    getPixelIntensity (bitmap.stored (bitmap.address y x)) =
      getPixelIntensity (other.stored (other.address y x))

theorem Bitmap.SameGrey.converted (hgrey : bitmap.SameGrey other)
    (haccepted : bitmap.Accepted) (hother : other.Accepted) :
    Dlib.SameGrey (convertBitmapToArray2d bitmap Array2d.new).out
      (convertBitmapToArray2d other Array2d.new).out := by
  obtain ⟨_, _, hnr, hnc, hcell⟩ := convert_of_accepted haccepted Array2d.new
  obtain ⟨_, _, hnrOther, hncOther, hcellOther⟩ :=
    convert_of_accepted hother Array2d.new
  refine ⟨?_, ?_, ?_⟩
  · rw [hnr, hnrOther, hgrey.height]
  · rw [hnc, hncOther, hgrey.width]
  · intro r c hr hc
    rw [hnr] at hr
    rw [hnc] at hc
    rw [hcell r c hr hc, hcellOther r c (hgrey.height ▸ hr) (hgrey.width ▸ hc)]
    exact hgrey.intensity r c hr hc

variable {F : Type} [ShapeFloat F] [CFloat F] (std : DescendingSort)
  (scanner : FhogScanner) (geometry : ShapeGeometry F)
  (frontalFaceDetector : ObjectDetector)

/-- The landmarks depend on the mean of the stored channels only: bitmaps of the
same grey get the same faces for the same boxes, each with all the parts of a
well-formed predictor. -/
theorem landmarks_of_grey (hgrey : bitmap.SameGrey other)
    (haccepted : bitmap.Accepted) (hother : other.Accepted) {globals : Globals F}
    (hwell : globals.sFaceLandmarksDetector.WellFormed)
    (faceRects : List (RectF F)) :
    let dlib := dlibAlgorithms std scanner geometry frontalFaceDetector
    ∃ faces,
      (detectLandmarksFromFaces dlib globals bitmap faceRects).result =
          some faces ∧
        (detectLandmarksFromFaces dlib globals other faceRects).result =
          some faces ∧
        faces.length = faceRects.length ∧
        ∀ face ∈ faces,
          face.landmarks.length = globals.sFaceLandmarksDetector.numParts := by
  intro dlib
  have hsame := hgrey.converted haccepted hother
  have hdefined := (convert_of_accepted haccepted Array2d.new).1
  have hdefinedOther := (convert_of_accepted hother Array2d.new).1
  have hpredict : ∀ rect,
      dlib.predict globals.sFaceLandmarksDetector
          (convertBitmapToArray2d bitmap Array2d.new).out rect =
        dlib.predict globals.sFaceLandmarksDetector
          (convertBitmapToArray2d other Array2d.new).out rect := by
    intro rect
    exact congrArg (fun parts => parts.getD [])
      (ShapePredictor.run_of_sameGrey hsame geometry _ rect)
  unfold detectLandmarksFromFaces convertThen
  simp only [hdefined, hdefinedOther, Bool.false_eq_true, if_false, hsame.nr,
    hsame.nc, hpredict]
  refine ⟨_, rfl, rfl, ?_, ?_⟩
  · simp only [List.length_map]
  · intro face hface
    obtain ⟨bound, _, rfl⟩ := List.mem_map.mp hface
    rw [List.length_map]
    exact length_predict std scanner geometry frontalFaceDetector hwell _ bound

end Grey

theorem accepted_greenPixel : greenPixel.toBitmap.Accepted :=
  ⟨by decide, by decide, rfl, by decide⟩

/-- A blue pixel. -/
def bluePixel : Bitmap :=
  { greenPixel.toBitmap with
    pixels := fun offset => if offset = 2 ∨ offset = 3 then 255 else 0 }

theorem sameGrey_bluePixel : greenPixel.toBitmap.SameGrey bluePixel := by
  refine ⟨rfl, rfl, ?_⟩
  intro y x hy hx
  have hy0 : y = 0 := Nat.lt_one_iff.mp hy
  have hx0 : x = 0 := Nat.lt_one_iff.mp hx
  subst hy0 hx0
  decide

/-- One part, which a tree moves where its pixel is brighter than one outside the
image. -/
def onePart : ShapePredictor ℚ where
  initialShape := [0, 0]
  forests := [[{ splits := [⟨0, 1, 100⟩], leafValues := [[3, 4], [0, 0]] }]]
  anchorIdx := [[0, 0]]
  deltas := [[(0, 0), (1, 1)]]

theorem onePart_wellFormed : onePart.WellFormed := by
  apply ShapePredictor.wellFormed_of_oneLevel rfl (by decide)
  intro tree htree
  obtain rfl := List.mem_singleton.mp htree
  exact ⟨by decide, rfl, by decide⟩

theorem landmarks_of_bluePixel :
    let dlib := dlibAlgorithms .stable threePlaces pixelGeometry oneFilter
    let globals : Globals ℚ :=
      { (Globals.loaded : Globals ℚ) with sFaceLandmarksDetector := onePart }
    ∃ faces,
      (detectLandmarksFromFaces dlib globals greenPixel.toBitmap
          [⟨0, 0, 1, 1⟩]).result = some faces ∧
        (detectLandmarksFromFaces dlib globals bluePixel
          [⟨0, 0, 1, 1⟩]).result = some faces ∧
        faces.length = 1 ∧
        ∀ face ∈ faces,
          face.landmarks.length = globals.sFaceLandmarksDetector.numParts := by
  intro dlib globals
  have hblue : bluePixel.Accepted := ⟨by decide, by decide, rfl, by decide⟩
  have hwell : globals.sFaceLandmarksDetector.WellFormed := onePart_wellFormed
  exact landmarks_of_grey .stable threePlaces pixelGeometry oneFilter
    sameGrey_bluePixel accepted_greenPixel hblue hwell [⟨0, 0, 1, 1⟩]

/-- The pixel is bright enough to move the part. -/
example :
    onePart.run pixelGeometry
      (convertBitmapToArray2d bluePixel Array2d.new).out ⟨0, 0, 1, 1⟩ =
        some [⟨3, 4⟩] := by
  decide +kernel

end NativeLib
end ImportDlibDemo
