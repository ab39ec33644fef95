import ImportDlibDemo.Library.AspectFit
import ImportDlibDemo.Library.GuardedRun
import ImportDlibDemo.View.FaceLandmarksOverlayView

/-!
# The two scalings of the overlay

`setFaces` stores the faces scaled to the preview size of that moment, and
`setCameraPreviewSize` sets the scale they are drawn through to that of the new
size.  A ghost layer keeps what the overlay forgets: the normalised faces, the
size they were stored for, and the latest preview size.

Every point is placed by the latest size exactly when no new size comes while
points stored for another one are on the overlay.
-/

namespace ImportDlibDemo
namespace View

open Data
open Library.AspectFit
open Library.GuardedRun

/-- The points of a face: two corners of its bound, and its landmarks. -/
def facePoints {K : Type} (bound : RectF K) (landmarks : List (Landmark K)) :
    List (Landmark K) :=
  ⟨bound.left, bound.top⟩ :: ⟨bound.right, bound.bottom⟩ :: landmarks

/-- The calls an overlay receives; preview sizes are positive. -/
inductive OverlayEvent (K : Type)
  | setCameraPreviewSize (width height : Int) (width_pos : 0 < width)
      (height_pos : 0 < height)
  | setFaces (faces : List (DLibFace68 K))

/-- An overlay with the faces of the latest `setFaces`, normalised, the preview
size they were stored for, and the size most recently set. -/
structure ObservedOverlay (K : Type) where
  view : FaceLandmarksOverlayView K
  faces : List (DLibFace68 K)
  storedWidth : Int
  storedHeight : Int
  previewSize : Option (Int × Int)

namespace ObservedOverlay

variable {K : Type} [Field K] [LinearOrder K]

/-- A fresh overlay of the given size. -/
def new (width height : Int) : ObservedOverlay K where
  view := FaceLandmarksOverlayView.new width height
  faces := []
  storedWidth := 0
  storedHeight := 0
  previewSize := none

/-- The overlay after a call. -/
def after (overlay : ObservedOverlay K) : OverlayEvent K → ObservedOverlay K
  | .setCameraPreviewSize width height _ _ =>
      { overlay with
        view := overlay.view.setCameraPreviewSize width height
        previewSize := some (width, height) }
  | .setFaces faces =>
      { overlay with
        view := overlay.view.setFaces faces
        faces := faces
        storedWidth := overlay.view.mPreviewWidth
        storedHeight := overlay.view.mPreviewHeight }

/-- One call of a run; none of them can fail. -/
def step (overlay : ObservedOverlay K) (event : OverlayEvent K) :
    Option (ObservedOverlay K) :=
  some (overlay.after event)

/-- A normalised point is drawn where the preview size `w` by `h` puts it in a
view of `W` by `H`; one of the picture is drawn inside the view. -/
def PlacedBy (W H w h : Int) (mark circle : Landmark K) : Prop :=
  let s := fitScale (W : K) H w h
  circle = ⟨mark.x * w * s, mark.y * h * s⟩ ∧
    (0 ≤ mark.x → mark.x ≤ 1 → 0 ≤ mark.y → mark.y ≤ 1 →
      (0 ≤ circle.x ∧ circle.x ≤ W) ∧ 0 ≤ circle.y ∧ circle.y ≤ H)

/-- A drawing pass places every point of every face by the preview size most
recently set, if one has been set. -/
def PlacedByLatestSize (W H : Int) (overlay : ObservedOverlay K) : Prop :=
  ∀ w h, overlay.previewSize = some (w, h) →
    List.Forall₂
      (fun (face : DLibFace68 K) (drawing : FaceLandmarksOverlayView.Drawing K) =>
        List.Forall₂ (PlacedBy W H w h) (facePoints face.mBound face.mLandmarks)
          (facePoints drawing.bound drawing.circles))
      overlay.faces overlay.view.onDrawForeground

/-- A new preview size leaves the stored points where they are: a coordinate
that is not zero has been stored for the same width or height. -/
def KeepsStoredPoints (overlay : ObservedOverlay K) : OverlayEvent K → Prop
  | .setCameraPreviewSize width height _ _ =>
      ∀ face ∈ overlay.faces, ∀ mark ∈ facePoints face.mBound face.mLandmarks,
        (mark.x = 0 ∨ overlay.storedWidth = width) ∧
          (mark.y = 0 ∨ overlay.storedHeight = height)
  | .setFaces _ => True

/-- What the fields of the view hold, in every run. -/
structure Consistent (W H : Int) (overlay : ObservedOverlay K) : Prop where
  width : overlay.view.width = W
  height : overlay.view.height = H
  stored : overlay.view.mFaces = overlay.faces.map fun face =>
    face.scaled (overlay.storedWidth : K) (overlay.storedHeight : K)
  scale : ∀ w h, overlay.previewSize = some (w, h) →
    (0 < w ∧ 0 < h) ∧
      (overlay.view.mPreviewWidth = w ∧ overlay.view.mPreviewHeight = h) ∧
        overlay.view.mScaleFromPreviewToView = fitScale (W : K) H w h

theorem consistent_new (W H : Int) :
    Consistent W H (new W H : ObservedOverlay K) where
  width := rfl
  height := rfl
  stored := rfl
  scale := by
    intro w h hsize
    cases hsize

/-- Step lemma for the fields; it holds of every call. -/
theorem consistent_after {W H : Int} {overlay : ObservedOverlay K}
    (hoverlay : Consistent W H overlay) (event : OverlayEvent K) :
    Consistent W H (overlay.after event) := by
  cases event with
  | setCameraPreviewSize width height width_pos height_pos =>
      refine ⟨hoverlay.width, hoverlay.height, hoverlay.stored, ?_⟩
      intro w h hsize
      cases hsize
      refine ⟨⟨width_pos, height_pos⟩, ⟨rfl, rfl⟩, ?_⟩
      show min ((overlay.view.width : K) / width)
        ((overlay.view.height : K) / height) = _
      rw [hoverlay.width, hoverlay.height, fitScale]
  | setFaces faces =>
      exact ⟨hoverlay.width, hoverlay.height, rfl, hoverlay.scale⟩

/-! ## Where a point is drawn -/

/-- A normalised point is drawn here: scaled to the size it was stored for, and
through the scale of the view. -/
def drawnStored (overlay : ObservedOverlay K) (mark : Landmark K) :
    Landmark K where
  x := overlay.view.mScaleFromPreviewToView *
    (mark.x * (overlay.storedWidth : K))
  y := overlay.view.mScaleFromPreviewToView *
    (mark.y * (overlay.storedHeight : K))

theorem points_onDrawForeground {W H : Int} {overlay : ObservedOverlay K}
    (hoverlay : Consistent W H overlay) :
    (overlay.view.onDrawForeground.map fun drawing =>
        facePoints drawing.bound drawing.circles) =
      overlay.faces.map fun face =>
        (facePoints face.mBound face.mLandmarks).map overlay.drawnStored := by
  rw [FaceLandmarksOverlayView.onDrawForeground, hoverlay.stored]
  simp [facePoints, DLibFace68.scaled, drawnStored, Function.comp_def]

/-- All points are placed when each single one is. -/
theorem placedByLatestSize_iff {W H : Int} {overlay : ObservedOverlay K}
    (hoverlay : Consistent W H overlay) :
    PlacedByLatestSize W H overlay ↔
      ∀ w h, overlay.previewSize = some (w, h) →
        ∀ face ∈ overlay.faces, ∀ mark ∈ facePoints face.mBound face.mLandmarks,
          PlacedBy W H w h mark (overlay.drawnStored mark) := by
  unfold PlacedByLatestSize
  refine forall₂_congr fun w h => imp_congr_right fun _ => ?_
  calc List.Forall₂ _ overlay.faces overlay.view.onDrawForeground
      ↔ List.Forall₂
          (fun (face : DLibFace68 K) =>
            List.Forall₂ (PlacedBy W H w h)
              (facePoints face.mBound face.mLandmarks))
          overlay.faces
          (overlay.view.onDrawForeground.map fun drawing =>
            facePoints drawing.bound drawing.circles) :=
        List.forall₂_map_right_iff.symm
    _ ↔ ∀ face ∈ overlay.faces,
          List.Forall₂ (PlacedBy W H w h) (facePoints face.mBound face.mLandmarks)
            ((facePoints face.mBound face.mLandmarks).map overlay.drawnStored) := by
        rw [points_onDrawForeground hoverlay, List.forall₂_map_right_iff,
          List.forall₂_same]
    _ ↔ _ := by
        simp only [List.forall₂_map_right_iff, List.forall₂_same]

section Ordered

variable [IsStrictOrderedRing K]

/-- A coordinate scaled twice agrees with one scaled by the latest size exactly
when it is zero or the sizes are the same. -/
theorem scaled_eq_iff {u s : K} {stored latest : Int} (hs : 0 < s) :
    s * (u * (stored : K)) = u * latest * s ↔ u = 0 ∨ stored = latest := by
  have hswap : s * (u * (stored : K)) = u * stored * s := by
    ring
  rw [hswap, mul_left_inj' hs.ne', mul_eq_mul_left_iff, Int.cast_inj, or_comm]

theorem placedBy_inside {W H w h : Int} {mark circle : Landmark K}
    (hw : 0 < w) (hh : 0 < h) (hW : 0 < W) (hH : 0 < H)
    (hplaced : circle = ⟨mark.x * w * fitScale (W : K) H w h,
      mark.y * h * fitScale (W : K) H w h⟩) : PlacedBy W H w h mark circle := by
  have hwK : (0 : K) < w := Int.cast_pos.mpr hw
  have hhK : (0 : K) < h := Int.cast_pos.mpr hh
  have hs : 0 < fitScale (W : K) H w h :=
    fitScale_pos (Int.cast_pos.mpr hW) (Int.cast_pos.mpr hH) hwK hhK
  obtain ⟨hwidth, hheight⟩ := mul_fitScale_le (W := (W : K)) (H := H) hwK hhK
  refine ⟨hplaced, ?_⟩
  intro hx hx' hy hy'
  rw [hplaced]
  simp only [mul_assoc]
  have hwide := (mul_pos hwK hs).le
  have htall := (mul_pos hhK hs).le
  exact ⟨⟨mul_nonneg hx hwide,
      (mul_le_of_le_one_left hwide hx').trans hwidth⟩,
    mul_nonneg hy htall, (mul_le_of_le_one_left htall hy').trans hheight⟩

/-- A point stored for one size is placed by the latest one exactly when its
coordinates are zero or stored for the same sides. -/
theorem placedBy_drawnStored_iff {W H w h : Int} {overlay : ObservedOverlay K}
    (hW : 0 < W) (hH : 0 < H) (hoverlay : Consistent W H overlay)
    (hsize : overlay.previewSize = some (w, h)) (mark : Landmark K) :
    PlacedBy W H w h mark (overlay.drawnStored mark) ↔
      (mark.x = 0 ∨ overlay.storedWidth = w) ∧
        (mark.y = 0 ∨ overlay.storedHeight = h) := by
  obtain ⟨⟨hw, hh⟩, _, hscale⟩ := hoverlay.scale w h hsize
  have hs : 0 < fitScale (W : K) H w h :=
    fitScale_pos (Int.cast_pos.mpr hW) (Int.cast_pos.mpr hH)
      (Int.cast_pos.mpr hw) (Int.cast_pos.mpr hh)
  have hpoint : overlay.drawnStored mark =
      ⟨mark.x * w * fitScale (W : K) H w h,
        mark.y * h * fitScale (W : K) H w h⟩ ↔
      (mark.x = 0 ∨ overlay.storedWidth = w) ∧
        (mark.y = 0 ∨ overlay.storedHeight = h) := by
    rw [drawnStored, hscale, Landmark.mk.injEq, scaled_eq_iff hs,
      scaled_eq_iff hs]
  rw [← hpoint]
  exact ⟨And.left, placedBy_inside hw hh hW hH⟩

/-! ## Runs -/

/-- Step lemma: whatever the state before, a call ends with every point placed
exactly when it keeps the stored points. -/
theorem placedByLatestSize_after_iff {W H : Int} (hW : 0 < W) (hH : 0 < H)
    {overlay : ObservedOverlay K} (hoverlay : Consistent W H overlay)
    (event : OverlayEvent K) :
    PlacedByLatestSize W H (overlay.after event) ↔
      KeepsStoredPoints overlay event := by
  have hafter := consistent_after hoverlay event
  rw [placedByLatestSize_iff hafter]
  cases event with
  | setCameraPreviewSize width height width_pos height_pos =>
      have hpoint := placedBy_drawnStored_iff hW hH hafter rfl
      constructor
      · intro hplaced face hface mark hmark
        exact (hpoint mark).mp (hplaced width height rfl face hface mark hmark)
      · intro hkeeps w h hsize face hface mark hmark
        cases hsize
        exact (hpoint mark).mpr (hkeeps face hface mark hmark)
  | setFaces faces =>
      refine iff_of_true ?_ trivial
      intro w h hsize face _ mark _
      -- The faces have just been stored for the size that was set.
      obtain ⟨_, ⟨hwidth, hheight⟩, _⟩ := hafter.scale w h hsize
      exact (placedBy_drawnStored_iff hW hH hafter hsize mark).mpr
        ⟨Or.inr hwidth, Or.inr hheight⟩

/-- In every state of a run every point is placed by the latest preview size,
exactly when no new size comes while points stored for another one are on the
overlay. -/
theorem always_placedByLatestSize_iff {W H : Int} (hW : 0 < W) (hH : 0 < H)
    (events : List (OverlayEvent K)) :
    Always step (PlacedByLatestSize W H) (new W H) events ↔
      EachStep step KeepsStoredPoints (new W H) events := by
  have hinv : ∀ (overlay : ObservedOverlay K) event next,
      Consistent W H overlay → step overlay event = some next →
        Consistent W H next := by
    intro overlay event next hoverlay hstep
    cases hstep
    exact consistent_after hoverlay event
  have hexact : ∀ (overlay : ObservedOverlay K) event, Consistent W H overlay →
      PlacedByLatestSize W H overlay →
      ((∀ next, step overlay event = some next → PlacedByLatestSize W H next) ↔
        KeepsStoredPoints overlay event) := by
    intro overlay event hoverlay _
    rw [← placedByLatestSize_after_iff hW hH hoverlay event]
    simp [step]
  have hstart : PlacedByLatestSize W H (new W H : ObservedOverlay K) := by
    intro w h hsize
    cases hsize
  exact always_iff_eachStep hinv hexact (consistent_new W H) hstart events

end Ordered

/-- The size first and the faces behind it, again and again for one size. -/
theorem placed_while_size_stays :
    Always step (PlacedByLatestSize 480 640)
      (new 480 640 : ObservedOverlay ℚ)
      [.setCameraPreviewSize 240 320 (by decide) (by decide),
        .setFaces [{ mBound := ⟨0, 0, 1, 1⟩, mLandmarks := [⟨1, 1⟩] }],
        .setCameraPreviewSize 240 320 (by decide) (by decide)] := by
  apply (always_placedByLatestSize_iff (by decide) (by decide) _).mpr
  simp [EachStep, KeepsStoredPoints, step, after, new, facePoints,
    FaceLandmarksOverlayView.setCameraPreviewSize,
    FaceLandmarksOverlayView.setFaces]

/-- A face stored for a preview of 640 by 480 is still on the overlay when the
size becomes 320 by 240: its lower right corner, the corner of the picture, is
drawn far outside the view. -/
theorem shrunk_size_draws_outside :
    let events : List (OverlayEvent ℚ) :=
      [.setCameraPreviewSize 640 480 (by decide) (by decide),
        .setFaces [{ mBound := ⟨0, 0, 1, 1⟩, mLandmarks := [⟨1, 1⟩] }],
        .setCameraPreviewSize 320 240 (by decide) (by decide)]
    (∃ last, run step (new 320 240) events = some last ∧
      last.view.onDrawForeground.map FaceLandmarksOverlayView.Drawing.circles =
        [[⟨640, 480⟩]]) ∧
    ¬ Always step (PlacedByLatestSize 320 240) (new 320 240) events := by
  intro events
  have hdrawn : ∃ last, run step (new 320 240) events = some last ∧
      last.view.onDrawForeground.map FaceLandmarksOverlayView.Drawing.circles =
        [[⟨640, 480⟩]] := by
    refine ⟨_, rfl, ?_⟩
    norm_num [after, new, FaceLandmarksOverlayView.new,
      FaceLandmarksOverlayView.setCameraPreviewSize,
      FaceLandmarksOverlayView.setFaces, DLibFace68.scaled,
      FaceLandmarksOverlayView.onDrawForeground]
  refine ⟨hdrawn, ?_⟩
  intro halways
  have hlast := halways.last rfl 320 240 rfl
  -- The last of the three points of the face is its landmark.
  obtain ⟨hface, _⟩ := List.forall₂_cons.mp hlast
  obtain ⟨_, hbound⟩ := List.forall₂_cons.mp hface
  obtain ⟨_, hlandmarks⟩ := List.forall₂_cons.mp hbound
  obtain ⟨hlandmark, _⟩ := List.forall₂_cons.mp hlandmarks
  have hinside :=
    (hlandmark.2 zero_le_one le_rfl zero_le_one le_rfl).1.2
  norm_num [after, new, FaceLandmarksOverlayView.new,
    FaceLandmarksOverlayView.setCameraPreviewSize,
    FaceLandmarksOverlayView.setFaces] at hinside

end ObservedOverlay
end View
end ImportDlibDemo
