import ImportDlibDemo.Detector.GoogleVisionAndDlibLandmarkDetector

/-!
# Do face boxes follow the pixels?

Google Vision reports faces in the upright frame: the frame rotated by its
metadata, not mirrored.  The pixels of that frame move to the bitmap handed to
dlib through `getBitmapFromFrame`, the boxes through the arithmetic of
`detectedBox`.  A box follows the pixels when it covers exactly the points of
the bitmap that show Google's box.

`boxes_follow_pixels_iff` says for which frames and faces it does.
-/

namespace ImportDlibDemo
namespace Detector

open Android
open Library.PlaneBox

/-- The upright, unmirrored frame: the raw pixels rotated by the metadata. -/
def uprightBitmap (frame : Frame) : Bitmap :=
  createBitmap frame.rawBitmap
    (Matrix.new.postRotate frame.metadata.rotation)

/-- The bitmap `detect` hands to `findLandmarksFromFaces`. -/
def handedBitmap (mIsFrontCamera : Bool) (frame : Frame) : Bitmap :=
  getBitmapFromFrame frame (getCameraToViewTransform mIsFrontCamera frame)

/-- The points of the handed bitmap that show what the upright frame shows in
`region`. -/
def shownAt (mIsFrontCamera : Bool) (frame : Frame) (region : Set (Point ℚ)) :
    Set (Point ℚ) :=
  Set.image (handedBitmap mIsFrontCamera frame).place
    (Set.preimage (uprightBitmap frame).place region)

/-- The box of a face covers exactly the points that show Google's box. -/
def FollowsPixels (mIsFrontCamera : Bool) (frame : Frame) (face : GoogleFace) :
    Prop :=
  (detectedBox mIsFrontCamera frame face).region =
    shownAt mIsFrontCamera frame face.box.region

/-- The width of the upright frame. -/
def uprightWidth (frame : Frame) : Nat :=
  match frame.metadata.rotation with
  | .rotation0 => frame.metadata.width
  | .rotation90 => frame.metadata.height
  | .rotation180 => frame.metadata.width
  | .rotation270 => frame.metadata.height

/-! ## Where the bitmaps show a point of the frame -/

/-- The upright frame shows the point `p` of the raw frame here. -/
def uprightPlace (metadata : Metadata) (p : Point ℚ) : Point ℚ :=
  match metadata.rotation with
  | .rotation0 => p
  | .rotation90 => ⟨metadata.height - p.y, p.x⟩
  | .rotation180 => ⟨metadata.width - p.x, metadata.height - p.y⟩
  | .rotation270 => ⟨p.y, metadata.width - p.x⟩

theorem uprightBitmap_place (frame : Frame) (p : Point ℚ) :
    (uprightBitmap frame).place p = uprightPlace frame.metadata p := by
  have hwidth : (0 : ℚ) ≤ frame.metadata.width := Nat.cast_nonneg _
  have hheight : (0 : ℚ) ≤ frame.metadata.height := Nat.cast_nonneg _
  unfold uprightBitmap uprightPlace
  -- Each rotation maps two corners of the frame to the left or top side.
  cases frame.metadata.rotation <;>
    simp [createBitmap, Matrix.new, Matrix.postRotate, Matrix.postConcat,
      Matrix.rotation, Matrix.mapRect, Matrix.mapPoint, Frame.rawBitmap,
      hwidth, hheight, sub_eq_add_neg, add_comm]

theorem handedBitmap_place_of_bitmap {frame : Frame}
    (hbitmap : frame.hasBitmap = true) (mIsFrontCamera : Bool) (p : Point ℚ) :
    (handedBitmap mIsFrontCamera frame).place p = p := by
  rw [handedBitmap, getBitmapFromFrame, if_pos hbitmap]
  rfl

/-- The back camera's YUV frame is handed over upright. -/
theorem handedBitmap_place_of_back {frame : Frame}
    (hyuv : frame.hasBitmap = false) (p : Point ℚ) :
    (handedBitmap false frame).place p = uprightPlace frame.metadata p := by
  rw [handedBitmap, getBitmapFromFrame, hyuv, ← uprightBitmap_place]
  unfold uprightBitmap getCameraToViewTransform
  cases frame.metadata.rotation with
  | rotation0 => simp [Matrix.postRotate_rotation0]
  | rotation90 => rfl
  | rotation180 => rfl
  | rotation270 => rfl

/-- The front camera's YUV frame is handed over mirrored in its upright
width. -/
theorem handedBitmap_place_of_front {frame : Frame}
    (hyuv : frame.hasBitmap = false) (p : Point ℚ) :
    (handedBitmap true frame).place p =
      ⟨uprightWidth frame - (uprightPlace frame.metadata p).x,
        (uprightPlace frame.metadata p).y⟩ := by
  have hwidth : (0 : ℚ) ≤ frame.metadata.width := Nat.cast_nonneg _
  have hheight : (0 : ℚ) ≤ frame.metadata.height := Nat.cast_nonneg _
  rw [handedBitmap, getBitmapFromFrame, hyuv]
  unfold getCameraToViewTransform uprightPlace uprightWidth
  cases frame.metadata.rotation <;>
    simp [createBitmap, Matrix.new, Matrix.postRotate, Matrix.postScale,
      Matrix.postConcat, Matrix.rotation, Matrix.mapRect, Matrix.mapPoint,
      Frame.rawBitmap, hwidth, hheight, sub_eq_add_neg, add_comm]

theorem uprightPlace_surjective (metadata : Metadata) :
    Function.Surjective (uprightPlace metadata) := by
  intro p
  unfold uprightPlace
  cases metadata.rotation with
  | rotation0 => exact ⟨p, rfl⟩
  | rotation90 =>
      refine ⟨⟨p.y, metadata.height - p.x⟩, ?_⟩
      simp
  | rotation180 =>
      refine ⟨⟨metadata.width - p.x, metadata.height - p.y⟩, ?_⟩
      simp
  | rotation270 =>
      refine ⟨⟨metadata.width - p.y, p.x⟩, ?_⟩
      simp

/-! ## Where a box of the upright frame is shown -/

/-- The box of the handed bitmap that shows a box of the upright frame. -/
def placedBox (mIsFrontCamera : Bool) (frame : Frame) (box : Box ℚ) : Box ℚ :=
  if frame.hasBitmap then
    match frame.metadata.rotation with
    | .rotation0 => box
    | .rotation90 => (box.mirrorX frame.metadata.height).transpose
    | .rotation180 =>
        (box.mirrorX frame.metadata.width).mirrorY frame.metadata.height
    | .rotation270 => box.transpose.mirrorX frame.metadata.width
  else if mIsFrontCamera then box.mirrorX (uprightWidth frame)
  else box

theorem mem_shownAt {mIsFrontCamera : Bool} {frame : Frame}
    {region : Set (Point ℚ)} {p : Point ℚ} :
    p ∈ shownAt mIsFrontCamera frame region ↔
      ∃ q, uprightPlace frame.metadata q ∈ region ∧
        (handedBitmap mIsFrontCamera frame).place q = p := by
  simp only [shownAt, Set.mem_image, Set.mem_preimage, uprightBitmap_place]

/-- A bitmap-backed frame is not moved, so its boxes move back from the upright
frame by the inverse rotation. -/
theorem shownAt_of_bitmap {frame : Frame} (hbitmap : frame.hasBitmap = true)
    (mIsFrontCamera : Bool) (box : Box ℚ) :
    shownAt mIsFrontCamera frame box.region =
      (placedBox mIsFrontCamera frame box).region := by
  ext ⟨x, y⟩
  simp only [mem_shownAt, handedBitmap_place_of_bitmap hbitmap,
    exists_eq_right, placedBox, if_pos hbitmap, uprightPlace]
  cases frame.metadata.rotation with
  | rotation0 => exact Iff.rfl
  | rotation90 =>
      rw [Box.mem_region_transpose, Box.mem_region_mirrorX]
  | rotation180 =>
      rw [Box.mem_region_mirrorY, Box.mem_region_mirrorX]
  | rotation270 =>
      rw [Box.mem_region_mirrorX, Box.mem_region_transpose]

/-- A YUV frame is handed over upright, and mirrored for the front camera. -/
theorem shownAt_of_yuv {frame : Frame} (hyuv : frame.hasBitmap = false)
    (mIsFrontCamera : Bool) (box : Box ℚ) :
    shownAt mIsFrontCamera frame box.region =
      (placedBox mIsFrontCamera frame box).region := by
  ext ⟨x, y⟩
  rw [mem_shownAt]
  cases mIsFrontCamera with
  | false =>
      simp only [handedBitmap_place_of_back hyuv, placedBox, hyuv]
      constructor
      · rintro ⟨q, hq, hplace⟩
        rwa [hplace] at hq
      · intro hp
        obtain ⟨q, hq⟩ := uprightPlace_surjective frame.metadata ⟨x, y⟩
        exact ⟨q, hq ▸ hp, hq⟩
  | true =>
      simp only [handedBitmap_place_of_front hyuv, placedBox, hyuv]
      constructor
      · rintro ⟨q, hq, hplace⟩
        obtain ⟨rfl, rfl⟩ := Point.mk.inj hplace
        apply Box.mem_region_mirrorX.mpr
        rwa [sub_sub_cancel]
      · intro hp
        -- The point that is mirrored to `(x, y)`.
        obtain ⟨q, hq⟩ := uprightPlace_surjective frame.metadata
          ⟨uprightWidth frame - x, y⟩
        refine ⟨q, ?_, ?_⟩
        · rw [hq]
          exact Box.mem_region_mirrorX.mp hp
        · rw [hq, sub_sub_cancel]

theorem shownAt_region (mIsFrontCamera : Bool) (frame : Frame) (box : Box ℚ) :
    shownAt mIsFrontCamera frame box.region =
      (placedBox mIsFrontCamera frame box).region := by
  by_cases hbitmap : frame.hasBitmap = true
  · exact shownAt_of_bitmap hbitmap mIsFrontCamera box
  · exact shownAt_of_yuv (Bool.not_eq_true _ ▸ hbitmap) mIsFrontCamera box

theorem placedBox_inverted_iff {mIsFrontCamera : Bool} {frame : Frame}
    {box : Box ℚ} :
    (placedBox mIsFrontCamera frame box).Inverted ↔ box.Inverted := by
  unfold placedBox
  split
  · split
    · exact Iff.rfl
    · simp [Box.Inverted, Box.mirrorX, Box.transpose, or_comm]
    · simp [Box.Inverted, Box.mirrorX, Box.mirrorY]
    · simp [Box.Inverted, Box.mirrorX, Box.transpose, or_comm]
  · split
    · simp [Box.Inverted, Box.mirrorX]
    · exact Iff.rfl

/-! ## When the two transforms agree -/

/-- The arithmetic of `detect` and the transform of the pixels put the face in
the same place: on a YUV frame when nothing is mirrored, or mirroring in the
metadata's height is mirroring in the upright width; on a bitmap-backed frame
only by coincidence of the face's position and size with the frame's. -/
def TransformsAgree (mIsFrontCamera : Bool) (frame : Frame)
    (face : GoogleFace) : Prop :=
  let width : ℚ := frame.metadata.width
  let height : ℚ := frame.metadata.height
  let x := face.position.x
  let y := face.position.y
  let w := face.width
  let h := face.height
  if frame.hasBitmap then
    match frame.metadata.rotation with
    | .rotation0 => mIsFrontCamera = true → height = 2 * x + w
    | .rotation90 =>
        y = height - x - w ∧ w = h ∧ (mIsFrontCamera = false → x = y)
    | .rotation180 =>
        height = 2 * y + h ∧
          (if mIsFrontCamera then width = height else width = 2 * x + w)
    | .rotation270 =>
        x = y ∧ w = h ∧
          (if mIsFrontCamera then width = height else width = 2 * x + w)
  else
    mIsFrontCamera = true → uprightWidth frame = frame.metadata.height

/-- Mirrored or not, the detected box has the size of the face. -/
theorem detectedBox_eq_ofSize (mIsFrontCamera : Bool) (frame : Frame)
    (face : GoogleFace) :
    detectedBox mIsFrontCamera frame face =
      Box.ofSize
        (if mIsFrontCamera then
          (frame.metadata.height : ℚ) - face.position.x - face.width
        else face.position.x)
        face.position.y face.width face.height := rfl

/-- The corner and the size of the box that shows a face of a bitmap-backed
frame. -/
theorem placedBox_of_bitmap {frame : Frame} (hbitmap : frame.hasBitmap = true)
    (mIsFrontCamera : Bool) (face : GoogleFace) :
    placedBox mIsFrontCamera frame face.box =
      let width : ℚ := frame.metadata.width
      let height : ℚ := frame.metadata.height
      let x := face.position.x
      let y := face.position.y
      let w := face.width
      let h := face.height
      match frame.metadata.rotation with
      | .rotation0 => Box.ofSize x y w h
      | .rotation90 => Box.ofSize y (height - x - w) h w
      | .rotation180 => Box.ofSize (width - x - w) (height - y - h) w h
      | .rotation270 => Box.ofSize (width - y - h) x h w := by
  have hface : face.box =
      Box.ofSize face.position.x face.position.y face.width face.height := rfl
  rw [placedBox, if_pos hbitmap, hface]
  cases frame.metadata.rotation with
  | rotation0 => rfl
  | rotation90 =>
      show ((Box.ofSize _ _ _ _).mirrorX _).transpose = _
      rw [Box.mirrorX_ofSize, Box.transpose_ofSize]
  | rotation180 =>
      show ((Box.ofSize _ _ _ _).mirrorX _).mirrorY _ = _
      rw [Box.mirrorX_ofSize, Box.mirrorY_ofSize]
  | rotation270 =>
      show (Box.ofSize _ _ _ _).transpose.mirrorX _ = _
      rw [Box.transpose_ofSize, Box.mirrorX_ofSize]

/-- On a bitmap-backed frame corner and size agree under these equations. -/
theorem detectedBox_eq_placedBox_of_bitmap {frame : Frame}
    (hbitmap : frame.hasBitmap = true) (mIsFrontCamera : Bool)
    (face : GoogleFace) :
    detectedBox mIsFrontCamera frame face =
        placedBox mIsFrontCamera frame face.box ↔
      TransformsAgree mIsFrontCamera frame face := by
  rw [detectedBox_eq_ofSize, placedBox_of_bitmap hbitmap, TransformsAgree,
    if_pos hbitmap]
  cases frame.metadata.rotation with
  | rotation0 =>
      rw [Box.ofSize_inj]
      cases mIsFrontCamera with
      | false => simp
      | true =>
          rw [if_pos rfl]
          constructor
          · rintro ⟨hleft, -⟩ -
            linarith
          · intro hheight
            have hside := hheight rfl
            refine ⟨?_, rfl, rfl, rfl⟩
            linarith only [hside]
  | rotation90 =>
      rw [Box.ofSize_inj]
      cases mIsFrontCamera with
      | false =>
          constructor
          · rintro ⟨hleft, htop, hsize, -⟩
            exact ⟨htop, hsize, fun _ => hleft⟩
          · rintro ⟨htop, hsize, hcorner⟩
            exact ⟨hcorner rfl, htop, hsize, hsize.symm⟩
      | true =>
          constructor
          · rintro ⟨-, htop, hsize, -⟩
            refine ⟨htop, hsize, ?_⟩
            intro hback
            cases hback
          · rintro ⟨htop, hsize, -⟩
            exact ⟨htop.symm, htop, hsize, hsize.symm⟩
  | rotation180 =>
      rw [Box.ofSize_inj]
      cases mIsFrontCamera with
      | false =>
          simp only [Bool.false_eq_true, if_false]
          constructor
          · rintro ⟨hleft, htop, -, -⟩
            constructor <;> linarith
          · rintro ⟨hheight, hwidth⟩
            refine ⟨?_, ?_, trivial, trivial⟩ <;> linarith
      | true =>
          simp only [if_true]
          constructor
          · rintro ⟨hleft, htop, -, -⟩
            constructor <;> linarith
          · rintro ⟨hheight, hwidth⟩
            refine ⟨?_, ?_, trivial, trivial⟩ <;> linarith
  | rotation270 =>
      rw [Box.ofSize_inj]
      cases mIsFrontCamera with
      | false =>
          simp only [Bool.false_eq_true, if_false]
          constructor
          · rintro ⟨hleft, htop, hsize, -⟩
            refine ⟨htop.symm, hsize, ?_⟩
            linarith
          · rintro ⟨hcorner, hsize, hwidth⟩
            refine ⟨?_, hcorner.symm, hsize, hsize.symm⟩
            linarith
      | true =>
          simp only [if_true]
          constructor
          · rintro ⟨hleft, htop, hsize, -⟩
            refine ⟨htop.symm, hsize, ?_⟩
            linarith
          · rintro ⟨hcorner, hsize, hwidth⟩
            refine ⟨?_, hcorner.symm, hsize, hsize.symm⟩
            linarith

/-- On a YUV frame the mirrored side decides. -/
theorem detectedBox_eq_placedBox_of_yuv {frame : Frame}
    (hyuv : frame.hasBitmap = false) (mIsFrontCamera : Bool)
    (face : GoogleFace) :
    detectedBox mIsFrontCamera frame face =
        placedBox mIsFrontCamera frame face.box ↔
      TransformsAgree mIsFrontCamera frame face := by
  have hface : face.box =
      Box.ofSize face.position.x face.position.y face.width face.height := rfl
  have hplain : ¬ frame.hasBitmap = true := by simp [hyuv]
  rw [detectedBox_eq_ofSize, placedBox, if_neg hplain, hface, TransformsAgree,
    if_neg hplain]
  cases mIsFrontCamera with
  | false => simp
  | true =>
      rw [if_pos rfl, if_pos rfl, Box.mirrorX_ofSize, Box.ofSize_inj,
        ← Nat.cast_inj (R := ℚ)]
      constructor
      · rintro ⟨hleft, -⟩ -
        linarith
      · intro hfront
        have hwidth := hfront rfl
        refine ⟨?_, rfl, rfl, rfl⟩
        linarith

theorem detectedBox_inverted_iff {mIsFrontCamera : Bool} {frame : Frame}
    {face : GoogleFace} :
    (detectedBox mIsFrontCamera frame face).Inverted ↔ face.box.Inverted := by
  simp [Box.Inverted, detectedBox, GoogleFace.box]

/-- The boxes follow the pixels exactly for those faces of a frame that are
empty or for which the two transforms agree. -/
theorem boxes_follow_pixels_iff (mIsFrontCamera : Bool) (frame : Frame)
    (faces : List GoogleFace) :
    (∀ face ∈ faces, FollowsPixels mIsFrontCamera frame face) ↔
      ∀ face ∈ faces, face.box.Inverted ∨
        TransformsAgree mIsFrontCamera frame face := by
  refine forall_congr' fun face => imp_congr_right fun _ => ?_
  have hagree : detectedBox mIsFrontCamera frame face =
      placedBox mIsFrontCamera frame face.box ↔
        TransformsAgree mIsFrontCamera frame face := by
    cases hbitmap : frame.hasBitmap with
    | false => exact detectedBox_eq_placedBox_of_yuv hbitmap _ face
    | true => exact detectedBox_eq_placedBox_of_bitmap hbitmap _ face
  rw [FollowsPixels, shownAt_region, Box.region_eq_iff,
    detectedBox_inverted_iff, placedBox_inverted_iff, and_self, hagree]

/-- A landscape frame of the front camera, 640 by 480 and upright as it is. -/
def landscapeFrame : Frame where
  metadata := { width := 640, height := 480, rotation := .rotation0 }
  hasBitmap := false

/-- A face in the corner of that frame. -/
def cornerFace : GoogleFace where
  position := ⟨0, 0⟩
  width := 100
  height := 100

/-- The face is mirrored in the height of the frame, its pixels in the width:
the box starts 160 pixels left of where the face is shown. -/
theorem landscape_box_misses_pixels :
    detectedBox true landscapeFrame cornerFace = ⟨380, 0, 480, 100⟩ ∧
      shownAt true landscapeFrame cornerFace.box.region =
        (⟨540, 0, 640, 100⟩ : Box ℚ).region ∧
      ¬ FollowsPixels true landscapeFrame cornerFace := by
  have hbox : detectedBox true landscapeFrame cornerFace =
      ⟨380, 0, 480, 100⟩ := by
    norm_num [detectedBox, landscapeFrame, cornerFace]
  have hshown : shownAt true landscapeFrame cornerFace.box.region =
      (⟨540, 0, 640, 100⟩ : Box ℚ).region := by
    rw [shownAt_region]
    norm_num [placedBox, landscapeFrame, cornerFace, GoogleFace.box,
      Box.mirrorX, uprightWidth]
  refine ⟨hbox, hshown, ?_⟩
  intro hfollows
  rw [FollowsPixels, hbox, hshown, Box.region_eq_iff] at hfollows
  norm_num [Box.Inverted] at hfollows

end Detector
end ImportDlibDemo
