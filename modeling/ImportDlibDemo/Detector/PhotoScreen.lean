import ImportDlibDemo.Detector.Screens

/-!
# `PhotoDetectActivity.startDetect`

A tap on the button scales the photo to the target width, tells the overlay this
size, and gives the scaled photo to the detector as a frame, all before anything
else happens on the screen.  So the faces are stored for the size of their own
photo, and they stay until the next tap, whatever the other screens do
(`photo_stays`).  A photo of which no row is left is not scaled: the exception of
`Bitmap.createBitmap` ends the process.
-/

namespace ImportDlibDemo
namespace Detector

open Android
open Dlib
open Library
open Library.GuardedRun
open NativeLib
open Proto

/-- `TARGET_WIDTH`. -/
def TARGET_WIDTH : Nat := 300

/-- `Math.round`. -/
def mathRound (x : Binary32) : Int :=
  floatToInt (fun value => ⌊value + 1 / 2⌋) x

/-- The scale of `startDetect`. -/
def scaleOf (photo : Android.Bitmap) : Binary32 :=
  .div (.ofInt TARGET_WIDTH) (.ofInt photo.width)

/-- A side of the scaled photo. -/
def scaledSide (photo : Android.Bitmap) (side : Nat) : Int :=
  mathRound ((scaleOf photo).mul (.ofInt side))

/-- `resizedBitmap`.  `Bitmap.createBitmap` throws when a side has no pixels. -/
def resizedBitmap (photo : Android.Bitmap) : Option Android.Bitmap :=
  let width := scaledSide photo photo.width
  let height := scaledSide photo photo.height
  let scale := (scaleOf photo).toRat
  if 0 < width ∧ 0 < height then
    some
      { width := width.toNat
        height := height.toNat
        place := fun p => ⟨scale * (photo.place p).x, scale * (photo.place p).y⟩ }
  else none

/-- The frame `Frame.Builder` makes of a bitmap. -/
def frameOfBitmap (bitmap : Android.Bitmap) : Frame where
  metadata :=
    { width := bitmap.width, height := bitmap.height, rotation := .rotation0 }
  hasBitmap := true

/-- `startDetect`: the calls it makes, one after the other, once the photo is
scaled. -/
def startDetect (photo : Android.Bitmap) (faces : SparseArray (VisionFace Binary32))
    (locked : Android.Bitmap → NativeLib.Bitmap) : Option (List AppEvent) :=
  (resizedBitmap photo).map fun resized =>
    [.setCameraPreviewSize .photoDetect resized.width resized.height,
      .receiveFrame .photoDetect (frameOfBitmap resized) faces locked]

/-! ## The size of the scaled photo -/

/-- A `float` that comes from a positive rational of moderate size. -/
def FloatOf (x : ℚ) (value : Binary32) : Prop :=
  ∃ y h, value = .finite (.number y h) ∧
    x * (1 - 1 / 2 ^ 24) ≤ y ∧ y ≤ x * (1 + 1 / 2 ^ 24)

/-- Rounding moves a normal number by a part in `2 ^ 24` at most. -/
theorem floatOf_ofRat {x : ℚ} (hx : 1 / 2 ^ 126 ≤ x) (hsmall : x ≤ 2 ^ 100) :
    FloatOf x (.ofRat x) := by
  have hpos : 0 < x := lt_of_lt_of_le (by positivity) hx
  have hnormal : (2 : ℚ) ^ (binary32.minExponent + binary32.precision - 1) ≤ |x| := by
    rw [abs_of_pos hpos]
    refine le_trans (le_of_eq ?_) hx
    norm_num [binary32]
  have herror : |binary32.nearest x - x| ≤ |x| / 2 ^ 24 :=
    FloatFormat.abs_nearest_sub_le hnormal
  rw [abs_of_pos hpos, abs_le] at herror
  have hlow : x * (1 - 1 / 2 ^ 24) ≤ binary32.nearest x := by linarith
  have hhigh : binary32.nearest x ≤ x * (1 + 1 / 2 ^ 24) := by linarith
  have hrange : |binary32.nearest x| < 2 ^ binary32.maxExponent := by
    rw [abs_of_nonneg (le_trans (by positivity) hlow)]
    calc binary32.nearest x ≤ 2 ^ 100 * (1 + 1 / 2 ^ 24) := hhigh.trans (by gcongr)
      _ < 2 ^ binary32.maxExponent := by norm_num [binary32]
  exact ⟨_, _, BinaryFloat.ofRat_of_nonneg hpos.le hrange, hlow, hhigh⟩

/-- A quotient times its divisor is the dividend, but for two roundings. -/
theorem mul_div_number {x y : ℚ} (hx : binary32.Representable x)
    (hy : binary32.Representable y) (hpos : 0 < x) (hypos : 0 < y)
    (hnormal : 1 / 2 ^ 126 ≤ x / y) (hsmall : x / y ≤ 2 ^ 100)
    (hxnormal : 1 / 2 ^ 125 ≤ x) (hxsmall : x ≤ 2 ^ 99) :
    ∃ result h,
      BinaryFloat.mul (.div (.finite (.number x hx)) (.finite (.number y hy)))
        (.finite (.number y hy)) = .finite (.number result h) ∧
      x * (1 - 1 / 2 ^ 24) * (1 - 1 / 2 ^ 24) ≤ result ∧
      result ≤ x * (1 + 1 / 2 ^ 24) * (1 + 1 / 2 ^ 24) := by
  obtain ⟨quotient, _, hquotient, hlow, hhigh⟩ := floatOf_ofRat hnormal hsmall
  have hquotientPos : 0 < quotient :=
    lt_of_lt_of_le (mul_pos (div_pos hpos hypos) (by norm_num)) hlow
  -- The divisor cancels out, with its own error.
  have hfull : x / y * y = x := div_mul_cancel₀ _ hypos.ne'
  have hproductLow : x * (1 - 1 / 2 ^ 24) ≤ quotient * y :=
    calc x * (1 - 1 / 2 ^ 24) = x / y * (1 - 1 / 2 ^ 24) * y := by
          rw [mul_right_comm, hfull]
      _ ≤ quotient * y := by gcongr
  have hproductHigh : quotient * y ≤ x * (1 + 1 / 2 ^ 24) :=
    calc quotient * y ≤ x / y * (1 + 1 / 2 ^ 24) * y := by gcongr
      _ = x * (1 + 1 / 2 ^ 24) := by rw [mul_right_comm, hfull]
  obtain ⟨result, hrep, hresult, hresultLow, hresultHigh⟩ :=
    floatOf_ofRat (x := quotient * y) (by linarith) (by linarith)
  refine ⟨result, hrep, ?_, ?_, ?_⟩
  · rw [BinaryFloat.div_number hpos hypos, hquotient,
      BinaryFloat.mul_number hquotientPos hypos, hresult]
  · exact le_trans (by gcongr) hresultLow
  · exact hresultHigh.trans (by gcongr)

/-- A photo becomes as wide as the target: the errors of the scale and of the
product do not add up to half a pixel. -/
theorem scaledSide_width {photo : Android.Bitmap} (hwidth : 0 < photo.width)
    (hint : photo.width < 2 ^ 31) :
    scaledSide photo photo.width = TARGET_WIDTH := by
  have hone : (1 : ℚ) ≤ photo.width := by exact_mod_cast hwidth
  have hlarge : (photo.width : ℚ) ≤ 2 ^ 31 := by exact_mod_cast hint.le
  obtain ⟨target, htargetRep, htarget, htargetLow, htargetHigh⟩ :=
    floatOf_ofRat (x := 300) (by norm_num) (by norm_num)
  obtain ⟨side, hsideRep, hside, hsideLow, hsideHigh⟩ := floatOf_ofRat (x := photo.width)
    (le_trans (by norm_num) hone) (hlarge.trans (by norm_num))
  have htargetPos : 0 < target := by linarith
  have hsidePos : 0 < side := by linarith
  obtain ⟨result, hrep, hresult, hlow, hhigh⟩ := mul_div_number htargetRep
    hsideRep htargetPos hsidePos
    (by rw [le_div_iff₀ hsidePos]; linarith)
    (by rw [div_le_iff₀ hsidePos]; linarith) (by linarith) (by linarith)
  have hfloor : ⌊result + 1 / 2⌋ = 300 := by
    rw [Int.floor_eq_iff]
    push_cast
    constructor <;> linarith
  have hcast : (BinaryFloat.ofInt photo.width : Binary32) =
      .finite (.number side hsideRep) := by
    rw [BinaryFloat.ofInt, Int.cast_natCast, hside]
  have hproduct : (scaleOf photo).mul (.ofInt photo.width) =
      .finite (.number result hrep) := by
    rw [scaleOf, hcast, ← hresult, ← htarget]
    rfl
  rw [scaledSide, mathRound, hproduct]
  show max (-2 ^ 31) (min (2 ^ 31 - 1) ⌊result + 1 / 2⌋) = 300
  rw [hfloor]
  decide

/-- A photo is scaled as long as a row of it is left. -/
theorem isSome_resizedBitmap {photo : Android.Bitmap} (hwidth : 0 < photo.width)
    (hint : photo.width < 2 ^ 31) :
    (resizedBitmap photo).isSome ↔ 0 < scaledSide photo photo.height := by
  have hwide := scaledSide_width hwidth hint
  rw [resizedBitmap]
  simp only [hwide]
  split_ifs with hrows
  · exact iff_of_true rfl hrows.2
  · exact iff_of_false Bool.false_ne_true fun hheight => hrows ⟨by decide, hheight⟩

theorem sides_of_resizedBitmap {photo resized : Android.Bitmap}
    (hwidth : 0 < photo.width) (hint : photo.width < 2 ^ 31)
    (hresized : resizedBitmap photo = some resized) :
    resized.width = TARGET_WIDTH ∧
      resized.height = scaledSide photo photo.height := by
  rw [resizedBitmap] at hresized
  simp only [scaledSide_width hwidth hint, Option.ite_none_right_eq_some,
    Option.some.injEq] at hresized
  obtain ⟨⟨_, hheight⟩, rfl⟩ := hresized
  exact ⟨rfl, Int.toNat_of_nonneg hheight.le⟩

/-! ## Other screens -/

namespace App

/-- An event changes its own screen at most. -/
theorem step_pipelines {proto : Protobuf} {dlib : DlibRuntime Binary32}
    {app next : App} {event : AppEvent} {screen : Screen}
    (hother : event.screen? ≠ some screen)
    (hstep : step proto dlib app event = some next) :
    next.pipelines screen = app.pipelines screen := by
  rcases step_cases hstep with
    ⟨call, globals, _, _, rfl⟩ | ⟨changed, pipeline, hchanged, rfl⟩
  · rfl
  · apply Function.update_of_ne
    rintro rfl
    exact hother hchanged

/-- Frame rule of a screen: events on other screens leave it alone. -/
theorem run_pipelines {proto : Protobuf} {dlib : DlibRuntime Binary32}
    {screen : Screen} {events : List AppEvent}
    (hothers : ∀ event ∈ events, event.screen? ≠ some screen) {app last : App}
    (hrun : run (step proto dlib) app events = some last) :
    last.pipelines screen = app.pipelines screen := by
  induction events generalizing app with
  | nil =>
      cases hrun
      rfl
  | cons event rest ih =>
      obtain ⟨hother, hrest⟩ := List.forall_mem_cons.mp hothers
      cases hstep : step proto dlib app event with
      | none => simp [run, hstep] at hrun
      | some next =>
          rw [run_cons_of_some hstep] at hrun
          exact (ih hrest hrun).trans (step_pipelines hother hstep)

section Photo

variable {std : DescendingSort} {scanner : FhogScanner}
  {geometry : ShapeGeometry Binary32} {frontalFaceDetector : ObjectDetector}
  {input : CodedInputStream} {runtime : Data.Messages.ProtobufRuntime} {app : App}

/-- What a tap owes once the photo is scaled: it is carried out, the photo screen
shows the faces of the photo, stored for its scaled size, and it does so as long as
everything else happens on other screens or in the library. -/
structure PhotoStays (proto : Protobuf) (dlib : DlibRuntime Binary32) (app : App)
    (resized : Android.Bitmap) (faces : SparseArray (VisionFace Binary32))
    (locked : Android.Bitmap → NativeLib.Bitmap) (events : List AppEvent)
    (shown : App) : Prop where
  carriedOut : run (step proto dlib) app events = some shown
  overlay : shown.overlay .photoDetect =
    ((app.overlay .photoDetect).setCameraPreviewSize resized.width
        resized.height).setFaces
      (app.facesOfFrame dlib .photoDetect (frameOfBitmap resized) faces locked)
  stays : ∀ later last, (∀ event ∈ later, event.screen? ≠ some .photoDetect) →
    run (step proto dlib) shown later = some last →
      last.overlay .photoDetect = shown.overlay .photoDetect

theorem photoStays_of_resized (hinput : input.Documented)
    (hruntime : runtime.Documented) (husable : Usable app.globals)
    {resized : Android.Bitmap} {faces : SparseArray (VisionFace Binary32)}
    {locked : Android.Bitmap → NativeLib.Bitmap}
    (haccepted : (locked (frameOfBitmap resized).rawBitmap).Accepted)
    (hmany : faces.size ≤ 2 ^ 20) :
    ∃ shown, PhotoStays (wireProtobuf input runtime)
      (dlibAlgorithms std scanner geometry frontalFaceDetector) app resized faces
      locked
      [.setCameraPreviewSize .photoDetect resized.width resized.height,
        .receiveFrame .photoDetect (frameOfBitmap resized) faces locked] shown := by
  let sized : App := app.update .photoDetect
    ((app.pipelines .photoDetect).after
      (.setCameraPreviewSize resized.width resized.height))
  have husableSized : Usable sized.globals := husable
  have hdetector : (sized.pipelines .photoDetect).detector =
      (app.pipelines .photoDetect).detector := rfl
  -- A frame that has a bitmap hands over that one.
  have hregular : sized.Regular
      (dlibAlgorithms std scanner geometry frontalFaceDetector)
      (.receiveFrame .photoDetect (frameOfBitmap resized) faces locked) := by
    refine ⟨haccepted, hmany, ?_⟩
    intro htoys
    cases htoys
  obtain ⟨shown, hstep, hshown⟩ :=
    showsFrames_of_usable hinput hruntime husableSized hregular
  refine ⟨shown, ?_, ?_, ?_⟩
  · show run _ sized [_] = some shown
    rw [run_cons_of_some hstep, run_nil]
  · refine hshown.overlay.trans ?_
    unfold facesOfFrame bitmapOf
    rw [hdetector]
    rfl
  · intro later last hothers hrun
    rw [overlay, run_pipelines hothers hrun]
    rfl

end Photo

/-- A photo of 2 by 1 pixels. -/
def smallPhoto : Android.Bitmap where
  width := 2
  height := 1
  place := fun p => p

/-- The platform's answer about the scaled photo, which is black. -/
def blackPixels : NativeLib.Bitmap where
  getInfo := 0
  info :=
    { width := 300, height := 150, stride := 1200, format := .rgba8888
      width_lt := by decide, height_lt := by decide, stride_lt := by decide }
  lockPixels := 0
  pixels := fun _ => 0

/-- Of a photo of one row that is wide enough no row is left. -/
example : (scaledSide smallPhoto smallPhoto.height,
    (resizedBitmap { smallPhoto with width := 1200 }).isSome) = (150, false) := by
  decide +kernel

end App

end Detector
end ImportDlibDemo
