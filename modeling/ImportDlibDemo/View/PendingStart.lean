import ImportDlibDemo.View.CameraSourcePreview

/-!
# A start request and the camera it needs

`startIfReady` starts `mCameraSource` whenever `mStartRequested` is set and the
surface is there, without a test for `null`.  It is safe as long as a set
request flag implies a camera.  `release` and `start(null)` forget the camera
but leave the flag, so the implication survives exactly the runs in which
neither is called while a request is pending.
-/

namespace ImportDlibDemo
namespace View
namespace CameraSourcePreview

open Library.GuardedRun

variable {Src : Type*}

/-- A pending request has a camera to start. -/
def SourceForRequest (view : CameraSourcePreview Src) : Prop :=
  view.mStartRequested = true → view.mCameraSource ≠ none

/-- The event does not start a missing camera. -/
def NoNullDereference (view : CameraSourcePreview Src)
    (event : PreviewEvent Src) : Prop :=
  (handle view event).thrown ≠ some .nullPointerException

/-- Along the run a pending request always has a camera, and no event starts a
missing one. -/
def NeverDereferencesMissingCamera (events : List (PreviewEvent Src)) : Prop :=
  Always step SourceForRequest new events ∧
    EachStep step NoNullDereference new events

/-- The event does not drop the camera of a pending request: `release()` and
`start(null)` come only when no request is pending. -/
def KeepsRequestedSource (view : CameraSourcePreview Src) :
    PreviewEvent Src → Prop
  | .release => view.mStartRequested = false
  | .start none _ => view.mStartRequested = false
  | _ => True

theorem sourceForRequest_new :
    SourceForRequest (new : CameraSourcePreview Src) := by
  intro hrequested
  cases hrequested

/-- Forgetting the camera keeps the implication exactly when nothing is
pending. -/
theorem sourceForRequest_forget_iff (view : CameraSourcePreview Src) :
    SourceForRequest
        ({ view with mCameraSource := none } : CameraSourcePreview Src) ↔
      view.mStartRequested = false := by
  simp [SourceForRequest]

/-- A state with the implication never dereferences `null`, whatever comes. -/
theorem noNullDereference_of_sourceForRequest {view : CameraSourcePreview Src}
    (hview : SourceForRequest view) (event : PreviewEvent Src) :
    NoNullDereference view event := by
  intro hthrown
  obtain ⟨hrequested, hmissing⟩ := handle_nullPointer hthrown
  exact hview hrequested hmissing

/-- A callback keeps the implication: it keeps the camera and can only clear
the request. -/
theorem sourceForRequest_startIfReadyLogged (attempt : Attempt)
    (view : CameraSourcePreview Src) (hview : SourceForRequest view) :
    SourceForRequest (startIfReadyLogged attempt view).view := by
  obtain ⟨hsource, hrequest⟩ := startIfReadyLogged_fields attempt view
  intro hrequested
  rw [hsource]
  exact hview (hrequest hrequested)

/-- Step lemma: from a state with the implication, an event keeps it exactly
when the event does not drop the camera of a pending request. -/
theorem sourceForRequest_handle_iff {view : CameraSourcePreview Src}
    (hview : SourceForRequest view) (event : PreviewEvent Src) :
    SourceForRequest (handle view event).view ↔
      KeepsRequestedSource view event := by
  cases event with
  | start cameraSource attempt =>
      cases cameraSource with
      | none =>
          simp only [handle, start_none_view, KeepsRequestedSource]
          exact sourceForRequest_forget_iff view
      | some source =>
          have hsource := (start_some_source source attempt view).1
          simp [SourceForRequest, KeepsRequestedSource, handle, hsource]
  | stop =>
      simp only [handle, stop_view, KeepsRequestedSource, iff_true]
      exact hview
  | release =>
      simp only [handle, release_view, KeepsRequestedSource]
      exact sourceForRequest_forget_iff view
  | surfaceCreated attempt =>
      simp only [handle, surfaceCreated, KeepsRequestedSource, iff_true]
      exact sourceForRequest_startIfReadyLogged attempt _ hview
  | surfaceDestroyed =>
      simp only [handle, surfaceDestroyed, KeepsRequestedSource, iff_true]
      exact hview
  | onLayout layout attempt =>
      simp only [handle, onLayout, KeepsRequestedSource, iff_true]
      exact sourceForRequest_startIfReadyLogged attempt _ hview

/-- A view never dereferences a missing camera along a run exactly when no
event of the run drops the camera of a pending request. -/
theorem neverDereferencesMissingCamera_iff
    (events : List (PreviewEvent Src)) :
    NeverDereferencesMissingCamera events ↔
      EachStep step KeepsRequestedSource new events := by
  have hexact : ∀ (view : CameraSourcePreview Src) event,
      True → SourceForRequest view →
      ((∀ next, step view event = some next → SourceForRequest next) ↔
        KeepsRequestedSource view event) := by
    intro view event _ hview
    rw [← sourceForRequest_handle_iff hview event]
    constructor
    · intro hkept
      -- With a camera for the request the event does reach its next state.
      exact hkept _ (step_eq_some_iff.mpr
        ⟨noNullDereference_of_sourceForRequest hview event, rfl⟩)
    · intro hhandle next hstep
      rw [← (step_eq_some_iff.mp hstep).2]
      exact hhandle
  have halways := always_iff_eachStep (fun _ _ _ _ _ => trivial) hexact trivial
    sourceForRequest_new events
  constructor
  · rintro ⟨hrequest, _⟩
    exact halways.mp hrequest
  · intro hguard
    have hrequest := halways.mpr hguard
    exact ⟨hrequest, hrequest.eachStep fun _ event hview =>
      noNullDereference_of_sourceForRequest hview event⟩

/-- The calls the camera activities make: `start` with a camera in `onResume`
and `release` in `onPause`, which also comes when `onResume` returned early for
want of the permission.  Surface and layout callbacks may come at any point.
The flag says whether the activity has started the camera since it was last
paused. -/
def ActivityRun : Bool → List (PreviewEvent Src) → Prop
  | _, [] => True
  | false, .start (some _) _ :: rest => ActivityRun true rest
  | _, .release :: rest => ActivityRun false rest
  | started, .surfaceCreated _ :: rest => ActivityRun started rest
  | started, .surfaceDestroyed :: rest => ActivityRun started rest
  | started, .onLayout _ _ :: rest => ActivityRun started rest
  | _, _ => False

/-- Pausing before the surface exists is enough: the surface that arrives
afterwards starts a camera that is gone. -/
theorem activityRun_dereferences_missing_camera :
    ¬ ∀ events : List (PreviewEvent Nat),
      ActivityRun false events → NeverDereferencesMissingCamera events := by
  intro hclaim
  have hrun : ActivityRun false
      ([.start (some 0) .started, .release, .surfaceCreated .started] :
        List (PreviewEvent Nat)) := by
    simp [ActivityRun]
  obtain ⟨hrequest, _⟩ := hclaim _ hrun
  have hreleased := always_iff_forall_prefix.mp hrequest
    [.start (some 0) .started, .release] [.surfaceCreated .started]
    { mStartRequested := true, mSurfaceAvailable := false,
      mCameraSource := none, mSurfaceView := ⟨0, 0⟩ } rfl rfl
  exact hreleased rfl rfl

end CameraSourcePreview
end View
end ImportDlibDemo
