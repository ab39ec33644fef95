import Mathlib.Data.Rat.Floor
import ImportDlibDemo.Library.GuardedRun
import ImportDlibDemo.Library.Truncation

/-!
# The `CameraSourcePreview` view

The view owns a surface and at most one camera source.  Starting is deferred:
`start` records a request, and `startIfReady` carries it out from `start`
itself, from `surfaceCreated` or from `onLayout`, whichever first finds the
surface available.

Every method is translated to a function from the view to an `Outcome`: the
fields afterwards, the calls made on camera sources in order, and the throwable
that leaves the method.  Whether a `CameraSource.start` succeeds is decided by
the environment, so it is an argument (`Attempt`) of the methods that may
reach one.  Camera sources are an arbitrary type `Src`.
-/

namespace ImportDlibDemo
namespace View

open Library.GuardedRun
open Library.Truncation

/-- How one call of `CameraSource.start` ends. -/
inductive Attempt
  | started
  | ioException
  deriving DecidableEq, Repr

/-- The calls the view makes on camera sources. -/
inductive CameraCall (Src : Type*)
  | start (source : Src) (attempt : Attempt)
  | stop (source : Src)
  | release (source : Src)
  deriving DecidableEq, Repr

/-- The throwables that can leave a method of the view. -/
inductive Throwable
  | ioException
  | nullPointerException
  deriving DecidableEq, Repr

/-- `Configuration.orientation`. -/
inductive Orientation
  | undefined
  | portrait
  | landscape
  | square
  deriving DecidableEq, Repr

/-- A width and a height. -/
structure Size where
  width : Int
  height : Int
  deriving DecidableEq, Repr

/-- The arguments of one `onLayout` call together with what it reads from its
surroundings: the orientation, and the `getPreviewSize` of a present camera. -/
structure LayoutCall where
  left : Int
  top : Int
  right : Int
  bottom : Int
  orientation : Orientation
  previewSize : Option Size
  deriving DecidableEq, Repr

/-- The fields of the view.  `mSurfaceView` is the only child; of it the size
given by the last layout is kept. -/
structure CameraSourcePreview (Src : Type*) where
  mStartRequested : Bool
  mSurfaceAvailable : Bool
  mCameraSource : Option Src
  mSurfaceView : Size
  deriving DecidableEq, Repr

/-- What one call of a method leaves behind. -/
structure Outcome (Src : Type*) where
  view : CameraSourcePreview Src
  calls : List (CameraCall Src)
  thrown : Option Throwable
  deriving DecidableEq, Repr

namespace CameraSourcePreview

variable {Src : Type*}

/-- The constructor: nothing requested, no surface, no camera. -/
def new : CameraSourcePreview Src where
  mStartRequested := false
  mSurfaceAvailable := false
  mCameraSource := none
  mSurfaceView := ⟨0, 0⟩

/-- `startIfReady`: with a request and a surface, start the camera and, if that
returns, clear the request.  Nothing tests the camera for `null`. -/
def startIfReady (attempt : Attempt) (view : CameraSourcePreview Src) :
    Outcome Src :=
  if view.mStartRequested && view.mSurfaceAvailable then
    match view.mCameraSource with
    | none => ⟨view, [], some .nullPointerException⟩
    | some source =>
        match attempt with
        | .started =>
            ⟨{ view with mStartRequested := false },
              [.start source .started], none⟩
        | .ioException =>
            ⟨view, [.start source .ioException], some .ioException⟩
  else
    ⟨view, [], none⟩

/-- `stop`: stop a present camera.  No field changes. -/
def stop (view : CameraSourcePreview Src) : Outcome Src :=
  match view.mCameraSource with
  | none => ⟨view, [], none⟩
  | some source => ⟨view, [.stop source], none⟩

/-- `release`: release a present camera and forget it.  The request flag is not
touched. -/
def release (view : CameraSourcePreview Src) : Outcome Src :=
  match view.mCameraSource with
  | none => ⟨view, [], none⟩
  | some source =>
      ⟨{ view with mCameraSource := none }, [.release source], none⟩

/-- `start`: `null` stops the current camera first; the argument then replaces
the current camera, and a non-`null` one is requested at once. -/
def start (cameraSource : Option Src) (attempt : Attempt)
    (view : CameraSourcePreview Src) : Outcome Src :=
  match cameraSource with
  | none =>
      let stopped := stop view
      ⟨{ stopped.view with mCameraSource := none }, stopped.calls, none⟩
  | some source =>
      startIfReady attempt
        { view with mCameraSource := some source, mStartRequested := true }

/-- The `try { startIfReady(); } catch (IOException e)` of both callbacks: an
`IOException` is logged, anything else leaves the callback. -/
def startIfReadyLogged (attempt : Attempt) (view : CameraSourcePreview Src) :
    Outcome Src :=
  let outcome := startIfReady attempt view
  match outcome.thrown with
  | some .ioException => { outcome with thrown := none }
  | _ => outcome

/-- `SurfaceCallback.surfaceCreated`. -/
def surfaceCreated (attempt : Attempt) (view : CameraSourcePreview Src) :
    Outcome Src :=
  startIfReadyLogged attempt { view with mSurfaceAvailable := true }

/-- `SurfaceCallback.surfaceDestroyed`. -/
def surfaceDestroyed (view : CameraSourcePreview Src) : Outcome Src :=
  ⟨{ view with mSurfaceAvailable := false }, [], none⟩

/-- `isPortraitMode`: false unless the orientation is portrait. -/
def isPortraitMode (orientation : Orientation) : Bool :=
  match orientation with
  | .landscape => false
  | .portrait => true
  | _ => false

/-- The preview size `onLayout` works with: 320 x 240 without a camera or
without a reported size, and swapped in portrait mode. -/
def previewSize (cameraSource : Option Src) (reported : Option Size)
    (orientation : Orientation) : Size :=
  let size : Size :=
    match cameraSource, reported with
    | some _, some size => size
    | _, _ => ⟨320, 240⟩
  if isPortraitMode orientation then ⟨size.height, size.width⟩ else size

/-- The child size of `onLayout`: fit the width, and fit the height instead
when the truncated height is too tall.  Float arithmetic is exact here. -/
def childSize (layoutWidth layoutHeight width height : Int) : Size :=
  let childHeight := truncate (((layoutWidth : Rat) / (width : Rat)) * height)
  if childHeight > layoutHeight then
    ⟨truncate (((layoutHeight : Rat) / (height : Rat)) * width), layoutHeight⟩
  else
    ⟨layoutWidth, childHeight⟩

/-- The layout half of `onLayout`: give the child its size. -/
def layOut (layout : LayoutCall) (view : CameraSourcePreview Src) :
    CameraSourcePreview Src :=
  let size := previewSize view.mCameraSource layout.previewSize layout.orientation
  { view with
    mSurfaceView := childSize (layout.right - layout.left)
      (layout.bottom - layout.top) size.width size.height }

/-- `onLayout`: lay out the child, then start the camera if it is ready. -/
def onLayout (layout : LayoutCall) (attempt : Attempt)
    (view : CameraSourcePreview Src) : Outcome Src :=
  startIfReadyLogged attempt (layOut layout view)

end CameraSourcePreview

/-- The calls a view receives from the activity and from the platform. -/
inductive PreviewEvent (Src : Type*)
  | start (cameraSource : Option Src) (attempt : Attempt)
  | stop
  | release
  | surfaceCreated (attempt : Attempt)
  | surfaceDestroyed
  | onLayout (layout : LayoutCall) (attempt : Attempt)
  deriving DecidableEq, Repr

namespace CameraSourcePreview

variable {Src : Type*}

/-- Dispatch one event to its method. -/
def handle (view : CameraSourcePreview Src) : PreviewEvent Src → Outcome Src
  | .start cameraSource attempt => start cameraSource attempt view
  | .stop => stop view
  | .release => release view
  | .surfaceCreated attempt => surfaceCreated attempt view
  | .surfaceDestroyed => surfaceDestroyed view
  | .onLayout layout attempt => onLayout layout attempt view

/-- One event of a run.  The activities catch the `IOException` of `start`; a
`NullPointerException` reaches the main looper and ends the process. -/
def step (view : CameraSourcePreview Src) (event : PreviewEvent Src) :
    Option (CameraSourcePreview Src) :=
  let outcome := handle view event
  if outcome.thrown = some .nullPointerException then none
  else some outcome.view

/-! ## What the methods can do -/

/-- There is a request and a surface to carry it out on. -/
def Ready (view : CameraSourcePreview Src) : Prop :=
  view.mStartRequested = true ∧ view.mSurfaceAvailable = true

instance (view : CameraSourcePreview Src) : Decidable view.Ready :=
  inferInstanceAs (Decidable (_ ∧ _))

theorem startIfReady_of_not_ready {view : CameraSourcePreview Src}
    (attempt : Attempt) (hready : ¬ view.Ready) :
    startIfReady attempt view = ⟨view, [], none⟩ := by
  unfold startIfReady
  rw [if_neg]
  rw [Bool.and_eq_true]
  exact hready

theorem startIfReady_of_missing {view : CameraSourcePreview Src}
    (attempt : Attempt) (hready : view.Ready)
    (hsource : view.mCameraSource = none) :
    startIfReady attempt view = ⟨view, [], some .nullPointerException⟩ := by
  simp [startIfReady, hready.1, hready.2, hsource]

theorem startIfReady_started {view : CameraSourcePreview Src} {source : Src}
    (hready : view.Ready) (hsource : view.mCameraSource = some source) :
    startIfReady .started view =
      ⟨{ view with mStartRequested := false }, [.start source .started], none⟩ := by
  simp [startIfReady, hready.1, hready.2, hsource]

theorem startIfReady_failed {view : CameraSourcePreview Src} {source : Src}
    (hready : view.Ready) (hsource : view.mCameraSource = some source) :
    startIfReady .ioException view =
      ⟨view, [.start source .ioException], some .ioException⟩ := by
  simp [startIfReady, hready.1, hready.2, hsource]

/-- Everything a callback can do once it reaches `startIfReady`: nothing, a
null dereference, a start, or a start that fails and is logged. -/
theorem startIfReadyLogged_cases (attempt : Attempt)
    (view : CameraSourcePreview Src) :
    (¬ view.Ready ∧ startIfReadyLogged attempt view = ⟨view, [], none⟩) ∨
    (view.Ready ∧ view.mCameraSource = none ∧
      startIfReadyLogged attempt view =
        ⟨view, [], some .nullPointerException⟩) ∨
    (∃ source, view.Ready ∧ view.mCameraSource = some source ∧
      attempt = .started ∧
      startIfReadyLogged attempt view =
        ⟨{ view with mStartRequested := false },
          [.start source .started], none⟩) ∨
    (∃ source, view.Ready ∧ view.mCameraSource = some source ∧
      attempt = .ioException ∧
      startIfReadyLogged attempt view =
        ⟨view, [.start source .ioException], none⟩) := by
  by_cases hready : view.Ready
  · cases hsource : view.mCameraSource with
    | none =>
        refine Or.inr (Or.inl ⟨hready, rfl, ?_⟩)
        simp [startIfReadyLogged, startIfReady_of_missing attempt hready hsource]
    | some source =>
        cases attempt with
        | started =>
            refine Or.inr (Or.inr (Or.inl ⟨source, hready, rfl, rfl, ?_⟩))
            simp [startIfReadyLogged, startIfReady_started hready hsource, hsource]
        | ioException =>
            refine Or.inr (Or.inr (Or.inr ⟨source, hready, rfl, rfl, ?_⟩))
            simp [startIfReadyLogged, startIfReady_failed hready hsource]
  · refine Or.inl ⟨hready, ?_⟩
    simp [startIfReadyLogged, startIfReady_of_not_ready attempt hready]

/-- `startIfReady` lays nothing out. -/
theorem startIfReadyLogged_mSurfaceView (attempt : Attempt)
    (view : CameraSourcePreview Src) :
    (startIfReadyLogged attempt view).view.mSurfaceView = view.mSurfaceView := by
  rcases startIfReadyLogged_cases attempt view with
    ⟨_, h⟩ | ⟨_, _, h⟩ | ⟨_, _, _, _, h⟩ | ⟨_, _, _, _, h⟩ <;> rw [h]

/-- A callback dereferences `null` exactly when it is ready without a camera. -/
theorem startIfReadyLogged_nullPointer_iff (attempt : Attempt)
    (view : CameraSourcePreview Src) :
    (startIfReadyLogged attempt view).thrown = some .nullPointerException ↔
      view.Ready ∧ view.mCameraSource = none := by
  rcases startIfReadyLogged_cases attempt view with
    ⟨hready, h⟩ | ⟨hready, hsource, h⟩ | ⟨source, hready, hsource, _, h⟩ |
      ⟨source, hready, hsource, _, h⟩
  · simp [h, hready]
  · simp [h, hready, hsource]
  · simp [h, hsource]
  · simp [h, hsource]

/-- A callback keeps the camera and never raises a request of its own. -/
theorem startIfReadyLogged_fields (attempt : Attempt)
    (view : CameraSourcePreview Src) :
    (startIfReadyLogged attempt view).view.mCameraSource = view.mCameraSource ∧
      ((startIfReadyLogged attempt view).view.mStartRequested = true →
        view.mStartRequested = true) := by
  rcases startIfReadyLogged_cases attempt view with
    ⟨_, h⟩ | ⟨_, _, h⟩ | ⟨_, _, _, _, h⟩ | ⟨_, _, _, _, h⟩ <;> simp [h]

@[simp] theorem release_view (view : CameraSourcePreview Src) :
    (release view).view = { view with mCameraSource := none } := by
  cases view with
  | mk requested available source surface => cases source <;> rfl

@[simp] theorem stop_view (view : CameraSourcePreview Src) :
    (stop view).view = view := by
  cases hsource : view.mCameraSource <;> simp [stop, hsource]

@[simp] theorem start_none_view (attempt : Attempt)
    (view : CameraSourcePreview Src) :
    (start none attempt view).view = { view with mCameraSource := none } := by
  simp [start]

/-- `start` with a camera sets the camera and cannot dereference `null`. -/
theorem start_some_source (source : Src) (attempt : Attempt)
    (view : CameraSourcePreview Src) :
    (start (some source) attempt view).view.mCameraSource = some source ∧
      (start (some source) attempt view).thrown ≠
        some .nullPointerException := by
  simp only [start]
  by_cases hready : Ready { view with
      mCameraSource := some source, mStartRequested := true }
  · cases attempt with
    | started => simp [startIfReady_started hready rfl]
    | ioException => simp [startIfReady_failed hready rfl]
  · simp [startIfReady_of_not_ready attempt hready]

/-- The only events that can dereference `null` are the two callbacks that
reach `startIfReady`. -/
theorem handle_nullPointer {view : CameraSourcePreview Src}
    {event : PreviewEvent Src}
    (h : (handle view event).thrown = some .nullPointerException) :
    view.mStartRequested = true ∧ view.mCameraSource = none := by
  cases event with
  | start cameraSource attempt =>
      cases cameraSource with
      | none => simp [handle, start] at h
      | some source => exact absurd h (start_some_source source attempt view).2
  | stop =>
      cases hsource : view.mCameraSource <;> simp [handle, stop, hsource] at h
  | release =>
      cases hsource : view.mCameraSource <;>
        simp [handle, release, hsource] at h
  | surfaceCreated attempt =>
      have hready := (startIfReadyLogged_nullPointer_iff attempt _).mp h
      exact ⟨hready.1.1, hready.2⟩
  | surfaceDestroyed => simp [handle, surfaceDestroyed] at h
  | onLayout layout attempt =>
      have hready := (startIfReadyLogged_nullPointer_iff attempt _).mp h
      exact ⟨hready.1.1, hready.2⟩

/-- A step ends in the view its event leaves, unless it dereferences `null`. -/
theorem step_eq_some_iff {view next : CameraSourcePreview Src}
    {event : PreviewEvent Src} :
    step view event = some next ↔
      (handle view event).thrown ≠ some .nullPointerException ∧
        (handle view event).view = next := by
  unfold step
  by_cases hthrown : (handle view event).thrown = some .nullPointerException
  · simp [hthrown]
  · simp [hthrown]

end CameraSourcePreview
end View
end ImportDlibDemo
