import ImportDlibDemo.Library.GuardedRun
import ImportDlibDemo.View.FaceLandmarksOverlayView

/-!
# `setFaces` and `onDrawForeground` on two threads

The overlay's list is a `CopyOnWriteArrayList`: each call on it is atomic, the
loops made of the calls are not.  `setFaces` holds `mMutex` while it clears the
list and adds the faces one by one; `onDrawForeground` takes no lock while it
alternates `size()` and `get(i)`.  One action is one atomic call.

A draw pass should read the faces of one `setFaces` call.  It does in every run
in which no list is cleared under a pass that has begun to read it, and no pass
ends on a list that is still being filled.
-/

namespace ImportDlibDemo
namespace View
namespace DrawInterleaving

open Library.GuardedRun

/-- Where the detector thread stands: outside `setFaces`, or inside it with
faces left to add. -/
inductive Writer (Face : Type*)
  | idle
  | adding (rest : List Face)
  deriving DecidableEq, Repr

/-- Where the UI thread stands: outside `onDrawForeground`, before the call
`size()` or `get(i)` of a pass that has read `read`, or dead of an
`IndexOutOfBoundsException`. -/
inductive Reader (Face : Type*)
  | idle
  | testing (i : Nat) (read : List Face)
  | fetching (i : Nat) (read : List Face)
  | thrown
  deriving DecidableEq, Repr

/-- A finished pass: the faces it has read, and the faces of the `setFaces`
calls that had begun by its end, latest first. -/
structure Pass (Face : Type*) where
  read : List Face
  calls : List (List Face)
  deriving DecidableEq, Repr

/-- The shared list, both threads, the faces of the `setFaces` calls so far and
the finished passes, both latest first. -/
structure Shared (Face : Type*) where
  mFaces : List Face
  writer : Writer Face
  reader : Reader Face
  calls : List (List Face)
  passes : List (Pass Face)
  deriving DecidableEq, Repr

/-- The atomic steps: entering `setFaces` and clearing the list, `add`, leaving
`setFaces`; entering `onDrawForeground`, `size()`, `get(i)`. -/
inductive Action (Face : Type*)
  | clear (faces : List Face)
  | add
  | leave
  | draw
  | size
  | get
  deriving DecidableEq, Repr

variable {Face : Type*}

/-- An overlay that has not been given any faces. -/
def Shared.new : Shared Face where
  mFaces := []
  writer := .idle
  reader := .idle
  calls := []
  passes := []

/-- One atomic step, where the thread that makes it stands before it. -/
def step (s : Shared Face) : Action Face → Option (Shared Face)
  | .clear faces =>
      match s.writer with
      | .idle =>
          some { s with
            mFaces := [], writer := .adding faces, calls := faces :: s.calls }
      | .adding _ => none
  | .add =>
      match s.writer with
      | .adding (face :: rest) =>
          some { s with mFaces := s.mFaces ++ [face], writer := .adding rest }
      | _ => none
  | .leave =>
      match s.writer with
      | .adding [] => some { s with writer := .idle }
      | _ => none
  | .draw =>
      match s.reader with
      | .idle => some { s with reader := .testing 0 [] }
      | _ => none
  | .size =>
      match s.reader with
      | .testing i read =>
          if i < s.mFaces.length then
            some { s with reader := .fetching i read }
          else
            some { s with
              reader := .idle, passes := ⟨read, s.calls⟩ :: s.passes }
      | _ => none
  | .get =>
      match s.reader with
      | .fetching i read =>
          match s.mFaces[i]? with
          | some face =>
              some { s with reader := .testing (i + 1) (read ++ [face]) }
          | none => some { s with reader := .thrown }
      | _ => none

/-- The pass has read the faces of one call, or the initial empty list when no
call had begun. -/
def Pass.Whole (pass : Pass Face) : Prop :=
  pass.read ∈ pass.calls ∨ (pass.calls = [] ∧ pass.read = [])

/-- No `get` was out of range, and every pass was whole. -/
structure DrawsWholeLists (s : Shared Face) : Prop where
  inRange : s.reader ≠ .thrown
  whole : ∀ pass ∈ s.passes, pass.Whole

/-- The faces of the latest call, or the initial empty list. -/
def Shared.current (s : Shared Face) : List Face :=
  s.calls.headD []

theorem Shared.whole_current (s : Shared Face) :
    Pass.Whole ⟨s.current, s.calls⟩ := by
  unfold Shared.current Pass.Whole
  cases s.calls with
  | nil => exact Or.inr ⟨rfl, rfl⟩
  | cons latest earlier => exact Or.inl List.mem_cons_self

/-- What the detector thread still has to add. -/
def Writer.rest : Writer Face → List Face
  | .idle => []
  | .adding rest => rest

/-- No pass has begun to read the list: there is none, or it stands before its
first `size()`. -/
def Reader.HasNotBegun : Reader Face → Prop
  | .testing i _ => i = 0
  | .fetching _ _ => False
  | _ => True

/-- The next `size()` of the pass would find nothing more to read. -/
def Shared.EndsPass (s : Shared Face) : Prop :=
  match s.reader with
  | .testing i _ => s.mFaces.length ≤ i
  | _ => False

/-- The step keeps the threads apart: the list is cleared only before a pass
has begun to read it, and a pass ends only when all faces have been added. -/
def KeepsApart (s : Shared Face) : Action Face → Prop
  | .clear _ => s.reader.HasNotBegun
  | .size => s.EndsPass → s.writer.rest = []
  | _ => True

instance [DecidableEq Face] (s : Shared Face) (action : Action Face) :
    Decidable (KeepsApart s action) := by
  unfold KeepsApart Reader.HasNotBegun Shared.EndsPass
  cases action <;> cases s.reader <;> infer_instance

/-! ## What the two loops know -/

/-- A pass that has read `i` faces holds the first `i` of the latest call. -/
def Reader.Follows (reader : Reader Face) (present current : List Face) :
    Prop :=
  match reader with
  | .idle => True
  | .testing i read => read = current.take i ∧ i ≤ present.length
  | .fetching i read => read = current.take i ∧ i < present.length
  | .thrown => False

/-- The list and what is still to be added make up the latest call, the pass
follows it, and the finished passes were whole. -/
structure Coherent (s : Shared Face) : Prop where
  parts : s.mFaces ++ s.writer.rest = s.current
  follows : s.reader.Follows s.mFaces s.current
  whole : ∀ pass ∈ s.passes, pass.Whole

theorem drawsWholeLists_of_coherent {s : Shared Face} (hs : Coherent s) :
    DrawsWholeLists s where
  inRange := by
    intro hthrown
    have hfollows := hs.follows
    rw [hthrown] at hfollows
    exact hfollows
  whole := hs.whole

theorem coherent_new : Coherent (Shared.new : Shared Face) where
  parts := rfl
  follows := trivial
  whole := by
    intro pass hpass
    cases hpass

/-! ## One step -/

section Steps

variable {s next : Shared Face}

theorem coherent_clear {faces : List Face} (hs : Coherent s)
    (hreader : s.reader.HasNotBegun)
    (hstep : step s (.clear faces) = some next) : Coherent next := by
  cases hwriter : s.writer with
  | adding rest => simp [step, hwriter] at hstep
  | idle =>
      simp only [step, hwriter, Option.some.injEq] at hstep
      subst hstep
      have hfollows := hs.follows
      constructor
      · rfl
      · show s.reader.Follows [] faces
        cases hwhere : s.reader with
        | idle => trivial
        | testing i read =>
            rw [hwhere] at hreader hfollows
            -- Nothing has been read, so the pass follows the new call too.
            obtain rfl : i = 0 := hreader
            exact ⟨hfollows.1, le_rfl⟩
        | fetching i read =>
            rw [hwhere] at hreader
            exact hreader.elim
        | thrown =>
            rw [hwhere] at hfollows
            exact hfollows
      · exact hs.whole

theorem coherent_add (hs : Coherent s) (hstep : step s .add = some next) :
    Coherent next := by
  cases hwriter : s.writer with
  | idle => simp [step, hwriter] at hstep
  | adding rest =>
      cases rest with
      | nil => simp [step, hwriter] at hstep
      | cons face rest =>
          simp only [step, hwriter, Option.some.injEq] at hstep
          subst hstep
          have hparts := hs.parts
          have hfollows := hs.follows
          rw [hwriter] at hparts
          constructor
          · show s.mFaces ++ [face] ++ rest = s.current
            rw [List.append_assoc]
            exact hparts
          · show s.reader.Follows (s.mFaces ++ [face]) s.current
            -- The list only grows, so the pass is still inside it.
            cases hwhere : s.reader with
            | idle => trivial
            | testing i read =>
                rw [hwhere] at hfollows
                refine ⟨hfollows.1, ?_⟩
                rw [List.length_append]
                exact Nat.le_add_right_of_le hfollows.2
            | fetching i read =>
                rw [hwhere] at hfollows
                refine ⟨hfollows.1, ?_⟩
                rw [List.length_append]
                exact Nat.lt_add_right _ hfollows.2
            | thrown =>
                rw [hwhere] at hfollows
                exact hfollows
          · exact hs.whole

theorem coherent_leave (hs : Coherent s) (hstep : step s .leave = some next) :
    Coherent next := by
  cases hwriter : s.writer with
  | idle => simp [step, hwriter] at hstep
  | adding rest =>
      cases rest with
      | cons face rest => simp [step, hwriter] at hstep
      | nil =>
          simp only [step, hwriter, Option.some.injEq] at hstep
          subst hstep
          have hparts := hs.parts
          rw [hwriter] at hparts
          exact ⟨hparts, hs.follows, hs.whole⟩

theorem coherent_draw (hs : Coherent s) (hstep : step s .draw = some next) :
    Coherent next := by
  cases hwhere : s.reader with
  | idle =>
      simp only [step, hwhere, Option.some.injEq] at hstep
      subst hstep
      exact ⟨hs.parts, ⟨rfl, Nat.zero_le _⟩, hs.whole⟩
  | testing i read => simp [step, hwhere] at hstep
  | fetching i read => simp [step, hwhere] at hstep
  | thrown => simp [step, hwhere] at hstep

/-- A pass that ends where nothing is left to add has read the whole call. -/
theorem read_whole (hs : Coherent s) {i : Nat} {read : List Face}
    (hwhere : s.reader = .testing i read) (hend : s.mFaces.length ≤ i)
    (hrest : s.writer.rest = []) : read = s.current := by
  have hparts := hs.parts
  have hfollows := hs.follows
  rw [hwhere] at hfollows
  obtain ⟨hread, hinside⟩ := hfollows
  rw [hrest, List.append_nil] at hparts
  rw [hread, ← hparts, List.take_of_length_le hend]

theorem coherent_size (hs : Coherent s)
    (hapart : s.EndsPass → s.writer.rest = [])
    (hstep : step s .size = some next) : Coherent next := by
  cases hwhere : s.reader with
  | idle => simp [step, hwhere] at hstep
  | fetching i read => simp [step, hwhere] at hstep
  | thrown => simp [step, hwhere] at hstep
  | testing i read =>
      have hfollows := hs.follows
      rw [hwhere] at hfollows
      obtain ⟨hread, hinside⟩ := hfollows
      by_cases hmore : i < s.mFaces.length
      · simp only [step, hwhere, if_pos hmore, Option.some.injEq] at hstep
        subst hstep
        exact ⟨hs.parts, ⟨hread, hmore⟩, hs.whole⟩
      · simp only [step, hwhere, if_neg hmore, Option.some.injEq] at hstep
        subst hstep
        have hend : s.mFaces.length ≤ i := not_lt.mp hmore
        have hends : s.EndsPass := by
          unfold Shared.EndsPass
          rw [hwhere]
          exact hend
        refine ⟨hs.parts, trivial, ?_⟩
        intro pass hpass
        rcases List.mem_cons.mp hpass with rfl | hold
        · rw [read_whole hs hwhere hend (hapart hends)]
          exact s.whole_current
        · exact hs.whole pass hold

theorem coherent_get (hs : Coherent s) (hstep : step s .get = some next) :
    Coherent next := by
  cases hwhere : s.reader with
  | idle => simp [step, hwhere] at hstep
  | testing i read => simp [step, hwhere] at hstep
  | thrown => simp [step, hwhere] at hstep
  | fetching i read =>
      have hfollows := hs.follows
      rw [hwhere] at hfollows
      obtain ⟨hread, hinside⟩ := hfollows
      have hface : s.mFaces[i]? = some s.mFaces[i] :=
        List.getElem?_eq_getElem hinside
      have hcurrent : s.current[i]? = some s.mFaces[i] := by
        rw [← hs.parts, List.getElem?_append_left hinside, hface]
      simp only [step, hwhere, hface, Option.some.injEq] at hstep
      subst hstep
      refine ⟨hs.parts, ⟨?_, hinside⟩, hs.whole⟩
      show read ++ [s.mFaces[i]] = s.current.take (i + 1)
      rw [hread, List.take_add_one, hcurrent]
      rfl

/-- Step lemma: a step that keeps the threads apart keeps them coherent. -/
theorem coherent_step {action : Action Face} (hs : Coherent s)
    (hapart : KeepsApart s action) (hstep : step s action = some next) :
    Coherent next := by
  cases action with
  | clear faces => exact coherent_clear hs hapart hstep
  | add => exact coherent_add hs hstep
  | leave => exact coherent_leave hs hstep
  | draw => exact coherent_draw hs hstep
  | size => exact coherent_size hs hapart hstep
  | get => exact coherent_get hs hstep

/-- A list cleared between a `size()` and its `get(i)` makes the `get` throw, if it
follows at once. -/
theorem get_after_clear_throws {i : Nat} {read faces : List Face}
    (hwhere : s.reader = .fetching i read)
    (hclear : step s (.clear faces) = some next) :
    ∃ after, step next .get = some after ∧ after.reader = .thrown := by
  cases hwriter : s.writer with
  | adding rest => simp [step, hwriter] at hclear
  | idle =>
      simp only [step, hwriter, Option.some.injEq] at hclear
      subst hclear
      exact ⟨_, by simp only [step, hwhere, List.getElem?_nil]; rfl, rfl⟩

end Steps

/-! ## The loops alone

Run without interruption, the steps of `setFaces` are the `setFaces` of the
view, and the steps of a draw pass read the whole list. -/

theorem run_adds (rest : List Face) (s : Shared Face) (present : List Face) :
    run step { s with mFaces := present, writer := .adding rest }
        (List.replicate rest.length .add) =
      some { s with mFaces := present ++ rest, writer := .adding [] } := by
  induction rest generalizing present with
  | nil => simp
  | cons face rest ih =>
      rw [List.length_cons, List.replicate_succ, run_cons_of_some rfl, ih]
      simp

theorem run_setFaces {s : Shared Face} (hidle : s.writer = .idle)
    (faces : List Face) :
    run step s (.clear faces :: (List.replicate faces.length .add ++ [.leave])) =
      some { s with mFaces := faces, calls := faces :: s.calls } := by
  have hclear : step s (.clear faces) =
      some { s with
        mFaces := [], writer := .adding faces, calls := faces :: s.calls } := by
    simp only [step, hidle]
  rw [run_cons_of_some hclear, run_append,
    run_adds faces { s with calls := faces :: s.calls } []]
  simp [run, step, hidle]

/-- The list the steps leave is the list of the view's `setFaces`. -/
theorem run_setFaces_view {K : Type} [IntCast K] [Mul K]
    (view : FaceLandmarksOverlayView K) (faces : List (Data.DLibFace68 K)) :
    ∃ after : Shared (Data.DLibFace68 K),
      run step Shared.new
          (.clear (view.setFaces faces).mFaces ::
            (List.replicate faces.length .add ++ [.leave])) = some after ∧
        after.mFaces = (view.setFaces faces).mFaces := by
  have hidle : (Shared.new : Shared (Data.DLibFace68 K)).writer = .idle := rfl
  have hrun := run_setFaces hidle (view.setFaces faces).mFaces
  have hlength : (view.setFaces faces).mFaces.length = faces.length := by
    simp
  rw [hlength] at hrun
  exact ⟨_, hrun, rfl⟩

theorem run_reads (n : Nat) (s : Shared Face) (i : Nat) (read : List Face)
    (hinside : i + n ≤ s.mFaces.length) :
    run step { s with reader := .testing i read }
        (List.replicate n [Action.size, Action.get]).flatten =
      some { s with
        reader := .testing (i + n) (read ++ (s.mFaces.drop i).take n) } := by
  induction n generalizing i read with
  | zero => simp
  | succ n ih =>
      have hhere : i < s.mFaces.length := by omega
      have hsize : step { s with reader := .testing i read } .size =
          some { s with reader := .fetching i read } := by
        simp only [step, if_pos hhere]
      have hget : step { s with reader := .fetching i read } .get =
          some { s with reader := .testing (i + 1) (read ++ [s.mFaces[i]]) } := by
        simp only [step, List.getElem?_eq_getElem hhere]
      rw [List.replicate_succ, List.flatten_cons, List.cons_append,
        List.cons_append, List.nil_append, run_cons_of_some hsize,
        run_cons_of_some hget, ih (i + 1) _ (by omega)]
      rw [List.drop_eq_getElem_cons hhere, List.take_succ_cons,
        List.append_assoc, show i + 1 + n = i + (n + 1) by omega]
      rfl

/-- A draw pass that is not interrupted reads the list. -/
theorem run_draw {s : Shared Face} (hidle : s.reader = .idle) :
    run step s
        (.draw :: ((List.replicate s.mFaces.length
          [Action.size, Action.get]).flatten ++ [.size])) =
      some { s with passes := ⟨s.mFaces, s.calls⟩ :: s.passes } := by
  have hdraw : step s .draw = some { s with reader := .testing 0 [] } := by
    simp only [step, hidle]
  rw [run_cons_of_some hdraw, run_append, run_reads _ s 0 [] (by omega)]
  simp [run, step, hidle]

/-! ## Runs -/

/-- In every run that keeps the threads apart, every draw pass reads the faces
of one `setFaces` call and no `get` is out of range. -/
theorem drawsWholeLists_of_keepsApart {actions : List (Action Face)}
    (hapart : EachStep step KeepsApart Shared.new actions) :
    Always step DrawsWholeLists Shared.new actions := by
  have hcoherent : Always step Coherent Shared.new actions :=
    always_of_eachStep (fun _ _ _ => coherent_step) coherent_new hapart
  exact hcoherent.imp fun _ => drawsWholeLists_of_coherent

/-- A pass may begin while faces are still being added. -/
theorem drawsWholeLists_while_adding :
    Always step DrawsWholeLists (Shared.new : Shared Nat)
      [.clear [1, 2], .add, .draw, .size, .get, .add, .size, .leave, .get,
        .size] :=
  drawsWholeLists_of_keepsApart (by decide)

/-- `size()`, `clear()`, `get(0)`: the pass throws on the UI thread. -/
theorem clear_between_size_and_get_throws :
    ¬ ∀ actions : List (Action Nat),
        Always step DrawsWholeLists Shared.new actions := by
  intro hclaim
  have hrun := hclaim
    [.clear [1], .add, .leave, .draw, .size, .clear [2], .get]
  have hlast := hrun.last rfl
  exact hlast.inRange rfl

end DrawInterleaving
end View
end ImportDlibDemo
