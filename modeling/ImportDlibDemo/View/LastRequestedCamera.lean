import Mathlib.Data.Set.Insert
import ImportDlibDemo.View.CameraSourcePreview

/-!
# Which cameras run

A ghost layer over the view: the set of camera sources that are running, read
off the calls the view makes on them, and the latest of the `start`, `stop` and
`release` calls the view received.  A run is good when a source runs only while
the latest call asked for exactly that source.

Two things break it.  `stop` leaves a pending request alone, so the surface
that arrives afterwards starts the stopped camera; and `start` with another
source does not stop the one that is running.  A run is good exactly when
neither happens in it.
-/

namespace ImportDlibDemo
namespace View

open Library.GuardedRun

/-- The latest of the `start`, `stop` and `release` calls. -/
inductive Request (Src : Type*)
  | nothing
  | start (cameraSource : Option Src)
  | stop
  | release

/-- A view with the sources that are running and the latest request. -/
structure Monitored (Src : Type*) where
  view : CameraSourcePreview Src
  running : Set Src
  latest : Request Src

namespace Monitored

open CameraSourcePreview

variable {Src : Type*}

/-- A source runs from a `start` that returned to the next `stop` or
`release`. -/
def observe (running : Set Src) : CameraCall Src → Set Src
  | .start source .started => insert source running
  | .start _ .ioException => running
  | .stop source => running \ {source}
  | .release source => running \ {source}

/-- The request a call of the view makes, if it makes one. -/
def request (latest : Request Src) : PreviewEvent Src → Request Src
  | .start cameraSource _ => .start cameraSource
  | .stop => .stop
  | .release => .release
  | _ => latest

/-- A fresh view: nothing runs and nothing was asked for. -/
def new : Monitored Src where
  view := CameraSourcePreview.new
  running := ∅
  latest := .nothing

/-- The state after an event: the view's, with the calls observed. -/
def after (m : Monitored Src) (event : PreviewEvent Src) : Monitored Src where
  view := (handle m.view event).view
  running := (handle m.view event).calls.foldl observe m.running
  latest := request m.latest event

/-- One event of a monitored run; a null dereference ends it. -/
def step (m : Monitored Src) (event : PreviewEvent Src) :
    Option (Monitored Src) :=
  (CameraSourcePreview.step m.view event).map fun _ => m.after event

/-- Every running source is the one the latest call asked for. -/
def OnlyLast (m : Monitored Src) : Prop :=
  ∀ source ∈ m.running, m.latest = .start (some source)

/-- What the camera field says about the latest request, in every run: the
camera last asked for is the one kept, and a kept camera was last asked for or
has been stopped since. -/
structure KeepsLatest (m : Monitored Src) : Prop where
  kept : ∀ source, m.latest = .start (some source) →
    m.view.mCameraSource = some source
  asked : ∀ source, m.view.mCameraSource = some source →
    m.latest = .start (some source) ∨ m.latest = .stop

/-- The callback would carry out a request that a `stop` came after. -/
def RevivesStopped (m : Monitored Src) (view : CameraSourcePreview Src) : Prop :=
  m.latest = .stop ∧ view.Ready ∧ view.mCameraSource ≠ none

/-- The event neither starts a source beside another running one nor carries
out a stopped request. -/
def StartsOnlyLast (m : Monitored Src) : PreviewEvent Src → Prop
  | .start (some source) _ => ∀ other ∈ m.running, other = source
  | .surfaceCreated .started =>
      ¬ RevivesStopped m { m.view with mSurfaceAvailable := true }
  | .onLayout _ .started => ¬ RevivesStopped m m.view
  | _ => True

theorem step_eq_some {m next : Monitored Src} {event : PreviewEvent Src}
    (hstep : step m event = some next) : next = m.after event := by
  unfold step at hstep
  rw [Option.map_eq_some_iff] at hstep
  obtain ⟨_, _, hnext⟩ := hstep
  exact hnext.symm

theorem onlyLast_new : OnlyLast (new : Monitored Src) := by
  intro source hrunning
  exact hrunning.elim

theorem keepsLatest_new : KeepsLatest (new : Monitored Src) where
  kept := by
    intro source hlatest
    cases hlatest
  asked := by
    intro source hsource
    cases hsource

/-! ## The camera field follows the requests -/

/-- An event that makes no request keeps the camera. -/
theorem after_source_of_callback {m : Monitored Src} {event : PreviewEvent Src}
    (hsource : (handle m.view event).view.mCameraSource = m.view.mCameraSource)
    (hrequest : request m.latest event = m.latest) (hm : KeepsLatest m) :
    KeepsLatest (m.after event) where
  kept := by
    intro source hlatest
    simp only [after, hrequest] at hlatest ⊢
    rw [hsource]
    exact hm.kept source hlatest
  asked := by
    intro source hkept
    simp only [after, hrequest] at hkept ⊢
    rw [hsource] at hkept
    exact hm.asked source hkept

/-- Step lemma for the camera field; it holds of every event. -/
theorem keepsLatest_after {m : Monitored Src} (hm : KeepsLatest m)
    (event : PreviewEvent Src) : KeepsLatest (m.after event) := by
  cases event with
  | start cameraSource attempt =>
      cases cameraSource with
      | none =>
          constructor
          · intro source hlatest
            simp [after, request] at hlatest
          · intro source hsource
            simp [after, handle] at hsource
      | some asked =>
          have hkept := (start_some_source asked attempt m.view).1
          constructor
          · intro source hlatest
            simp only [after, request, Request.start.injEq,
              Option.some.injEq] at hlatest
            subst hlatest
            exact hkept
          · intro source hsource
            simp only [after, handle, hkept, Option.some.injEq] at hsource
            subst hsource
            exact Or.inl rfl
  | stop =>
      constructor
      · intro source hlatest
        simp [after, request] at hlatest
      · intro source _
        exact Or.inr rfl
  | release =>
      constructor
      · intro source hlatest
        simp [after, request] at hlatest
      · intro source hsource
        simp [after, handle] at hsource
  | surfaceCreated attempt =>
      exact after_source_of_callback
        (startIfReadyLogged_fields attempt _).1 rfl hm
  | surfaceDestroyed => exact after_source_of_callback rfl rfl hm
  | onLayout layout attempt =>
      exact after_source_of_callback
        (startIfReadyLogged_fields attempt _).1 rfl hm

/-! ## One event and the running cameras -/

/-- Under both invariants only the kept camera can be running. -/
theorem running_is_kept {m : Monitored Src} (hm : KeepsLatest m)
    (honly : OnlyLast m) {source : Src} (hrunning : source ∈ m.running) :
    m.view.mCameraSource = some source :=
  hm.kept source (honly source hrunning)

/-- Stopping or releasing the kept camera leaves nothing running. -/
theorem running_diff_kept {m : Monitored Src} (hm : KeepsLatest m)
    (honly : OnlyLast m) {kept : Src}
    (hkept : m.view.mCameraSource = some kept) : m.running \ {kept} = ∅ := by
  ext source
  simp only [Set.mem_sdiff, Set.mem_singleton_iff, Set.mem_empty_iff_false,
    iff_false, not_and, not_not]
  intro hrunning
  have hsource := running_is_kept hm honly hrunning
  rw [hkept, Option.some.injEq] at hsource
  exact hsource.symm

/-- Without a kept camera nothing is running. -/
theorem running_of_no_camera {m : Monitored Src} (hm : KeepsLatest m)
    (honly : OnlyLast m) (hnone : m.view.mCameraSource = none) :
    m.running = ∅ := by
  ext source
  simp only [Set.mem_empty_iff_false, iff_false]
  intro hrunning
  rw [running_is_kept hm honly hrunning] at hnone
  cases hnone

/-- After `stop()` nothing is running. -/
theorem running_after_stop {m : Monitored Src} (hm : KeepsLatest m)
    (honly : OnlyLast m) :
    (CameraSourcePreview.stop m.view).calls.foldl observe m.running = ∅ := by
  cases hsource : m.view.mCameraSource with
  | none =>
      simpa [CameraSourcePreview.stop, hsource] using
        running_of_no_camera hm honly hsource
  | some kept =>
      simpa [CameraSourcePreview.stop, hsource, observe] using
        running_diff_kept hm honly hsource

/-- After `release()` nothing is running. -/
theorem running_after_release {m : Monitored Src} (hm : KeepsLatest m)
    (honly : OnlyLast m) :
    (CameraSourcePreview.release m.view).calls.foldl observe m.running = ∅ := by
  cases hsource : m.view.mCameraSource with
  | none =>
      simpa [CameraSourcePreview.release, hsource] using
        running_of_no_camera hm honly hsource
  | some kept =>
      simpa [CameraSourcePreview.release, hsource, observe] using
        running_diff_kept hm honly hsource

/-- Starting the kept camera is right exactly when no `stop` came last. -/
theorem onlyLast_insert_iff {m : Monitored Src} (hm : KeepsLatest m)
    (honly : OnlyLast m) {kept : Src}
    (hkept : m.view.mCameraSource = some kept) :
    (∀ source ∈ insert kept m.running, m.latest = .start (some source)) ↔
      m.latest ≠ .stop := by
  constructor
  · intro h hstop
    have hstart := h kept (Set.mem_insert kept m.running)
    rw [hstop] at hstart
    cases hstart
  · intro hstop source hsource
    rcases Set.mem_insert_iff.mp hsource with rfl | hrunning
    · exact (hm.asked source hkept).resolve_right hstop
    · exact honly source hrunning

/-- A callback that reaches `startIfReady` with the fields `view` keeps the law
exactly when it does not successfully start a stopped camera. -/
theorem onlyLast_callback_iff {m : Monitored Src} (hm : KeepsLatest m)
    (honly : OnlyLast m) (attempt : Attempt) (view : CameraSourcePreview Src)
    (hview : view.mCameraSource = m.view.mCameraSource) :
    (∀ source ∈
        (startIfReadyLogged attempt view).calls.foldl observe m.running,
        m.latest = .start (some source)) ↔
      (attempt = .started → ¬ RevivesStopped m view) := by
  rcases startIfReadyLogged_cases attempt view with
    ⟨hready, h⟩ | ⟨_, hsource, h⟩ | ⟨kept, hready, hsource, hattempt, h⟩ |
      ⟨_, _, _, hattempt, h⟩
  · simp only [h, List.foldl_nil]
    exact ⟨fun _ _ hrevives => hready hrevives.2.1, fun _ => honly⟩
  · simp only [h, List.foldl_nil]
    exact ⟨fun _ _ hrevives => hrevives.2.2 hsource, fun _ => honly⟩
  · simp only [h, List.foldl_cons, List.foldl_nil, observe]
    rw [onlyLast_insert_iff hm honly (hview.symm.trans hsource)]
    simp [RevivesStopped, hattempt, hready, hsource]
  · simp only [h, List.foldl_cons, List.foldl_nil, observe]
    refine ⟨fun _ hstarted => ?_, fun _ => honly⟩
    rw [hattempt] at hstarted
    cases hstarted

/-- `start(source)` keeps the law exactly when nothing else is running. -/
theorem onlyLast_start_iff (m : Monitored Src) (source : Src)
    (attempt : Attempt) :
    OnlyLast (m.after (.start (some source) attempt)) ↔
      ∀ other ∈ m.running, other = source := by
  have hrunning : (m.after (.start (some source) attempt)).running =
      m.running ∨
      (m.after (.start (some source) attempt)).running =
        insert source m.running := by
    simp only [after, handle, CameraSourcePreview.start]
    by_cases hready : CameraSourcePreview.Ready { m.view with
        mCameraSource := some source, mStartRequested := true }
    · cases attempt with
      | started => simp [startIfReady_started hready rfl, observe]
      | ioException => simp [startIfReady_failed hready rfl, observe]
    · simp [startIfReady_of_not_ready attempt hready]
  have hlatest : (m.after (.start (some source) attempt)).latest =
      .start (some source) := rfl
  unfold OnlyLast
  rw [hlatest]
  rcases hrunning with h | h
  · simp [h, eq_comm]
  · simp [h, eq_comm, or_imp]

/-- Step lemma: an event keeps the law exactly when it meets the guard. -/
theorem onlyLast_after_iff {m : Monitored Src} (hm : KeepsLatest m)
    (honly : OnlyLast m) (event : PreviewEvent Src) :
    OnlyLast (m.after event) ↔ StartsOnlyLast m event := by
  cases event with
  | start cameraSource attempt =>
      cases cameraSource with
      | none =>
          have hnone := running_after_stop hm honly
          simp [OnlyLast, after, handle, CameraSourcePreview.start, hnone,
            StartsOnlyLast]
      | some source => exact onlyLast_start_iff m source attempt
  | stop =>
      have hnone := running_after_stop hm honly
      simp [OnlyLast, after, handle, hnone, StartsOnlyLast]
  | release =>
      have hnone := running_after_release hm honly
      simp [OnlyLast, after, handle, hnone, StartsOnlyLast]
  | surfaceCreated attempt =>
      have h := onlyLast_callback_iff hm honly attempt
        { m.view with mSurfaceAvailable := true } rfl
      cases attempt with
      | started => exact h.trans (forall_prop_of_true rfl)
      | ioException =>
          -- A failed attempt starts nothing, whatever the callback finds.
          refine h.trans (iff_true_intro ?_)
          intro hstarted
          cases hstarted
  | surfaceDestroyed => exact iff_of_true honly trivial
  | onLayout layout attempt =>
      -- Laying out the child changes nothing the law speaks about.
      have h := onlyLast_callback_iff hm honly attempt
        (layOut layout m.view) rfl
      cases attempt with
      | started => exact h.trans (forall_prop_of_true rfl)
      | ioException =>
          -- A failed attempt starts nothing, whatever the callback finds.
          refine h.trans (iff_true_intro ?_)
          intro hstarted
          cases hstarted

/-- A null dereference starts nothing, so it meets the guard. -/
theorem startsOnlyLast_of_nullPointer {m : Monitored Src}
    {event : PreviewEvent Src}
    (hthrown : (handle m.view event).thrown = some .nullPointerException) :
    StartsOnlyLast m event := by
  have hmissing := (handle_nullPointer hthrown).2
  cases event with
  | start cameraSource attempt =>
      cases cameraSource with
      | none => trivial
      | some source =>
          exact absurd hthrown (start_some_source source attempt m.view).2
  | stop => trivial
  | release => trivial
  | surfaceCreated attempt =>
      cases attempt with
      | started => exact fun hrevives => hrevives.2.2 hmissing
      | ioException => trivial
  | surfaceDestroyed => trivial
  | onLayout layout attempt =>
      cases attempt with
      | started => exact fun hrevives => hrevives.2.2 hmissing
      | ioException => trivial

/-! ## Runs -/

/-- The cameras of a run are the requested ones exactly when no event of the
run starts a source beside another running one or carries out a request that a
`stop` came after. -/
theorem always_onlyLast_iff (events : List (PreviewEvent Src)) :
    Always step OnlyLast new events ↔ EachStep step StartsOnlyLast new events := by
  have hexact : ∀ (m : Monitored Src) event, KeepsLatest m → OnlyLast m →
      ((∀ next, step m event = some next → OnlyLast next) ↔
        StartsOnlyLast m event) := by
    intro m event hm honly
    constructor
    · intro hkept
      -- An event without a next state is a null dereference.
      by_cases hthrown :
          (handle m.view event).thrown = some .nullPointerException
      · exact startsOnlyLast_of_nullPointer hthrown
      · apply (onlyLast_after_iff hm honly event).mp
        apply hkept
        simp [step, CameraSourcePreview.step, hthrown]
    · intro hguard next hstep
      rw [step_eq_some hstep]
      exact (onlyLast_after_iff hm honly event).mpr hguard
  have hinv : ∀ (m : Monitored Src) event next, KeepsLatest m →
      step m event = some next → KeepsLatest next := by
    intro m event next hm hstep
    rw [step_eq_some hstep]
    exact keepsLatest_after hm event
  exact always_iff_eachStep hinv hexact keepsLatest_new onlyLast_new events

/-- `stop()` does not cancel a start that waits for the surface, and starting
another source leaves the first one running. -/
theorem stop_and_restart_leave_cameras_running :
    ¬ Always step OnlyLast (new : Monitored Nat)
        [.start (some 0) .started, .stop, .surfaceCreated .started] ∧
      ¬ Always step OnlyLast (new : Monitored Nat)
        [.surfaceCreated .started, .start (some 0) .started,
          .start (some 1) .started] := by
  constructor
  · intro h
    have hlast := h.last rfl 0 (Set.mem_insert 0 _)
    cases hlast
  · intro h
    have hlast := h.last rfl 0 (Set.mem_insert_of_mem 1 (Set.mem_insert 0 _))
    cases hlast

end Monitored
end View
end ImportDlibDemo
