import Mathlib.Data.List.Basic
import Mathlib.Data.List.TakeDrop
import Mathlib.Logic.Function.Basic

/-!
# `Utils.copyAssets`

Copying the assets into the files directory.  What the input and output of one
run do is its script: one outcome for each operation, in order.  Where the
script ends the process dies, so every cut point is a script.

A failed operation throws an `IOException`; a failed write may have put a part
of its chunk into the file first.  A listed name that is no file (a directory)
cannot be opened by anyone; that exception is no failure of the run.
-/

namespace ImportDlibDemo
namespace Utils

/-- The contents of a file. -/
abbrev Bytes := List UInt8

/-- The files directory. -/
abbrev FilesDir := String → Option Bytes

/-- The assets: the names `AssetManager.list("")` returns, and the contents of
those that can be opened. -/
structure Assets where
  names : List String
  contents : String → Option Bytes

/-- How one operation ends.  The number is the chunk a read offers, or the
bytes a failed write still wrote. -/
inductive Outcome
  | ok (count : Nat)
  | fails (count : Nat)
  deriving DecidableEq, Repr

/-- `Utils.MODEL_DATA`. -/
def MODEL_DATA : String := "shape_predictor_68_face_landmarks.dat"

/-- `Utils.TOY_MODEL_DATA`. -/
def TOY_MODEL_DATA : String := "detector.svm"

/-- `new FileOutputStream(outFile)`: the file exists and is empty. -/
def FilesDir.create (dir : FilesDir) (filename : String) : FilesDir :=
  Function.update dir filename (some [])

/-- `out.write`: the bytes go to the end of the open file. -/
def FilesDir.append (dir : FilesDir) (filename : String) (bytes : Bytes) :
    FilesDir :=
  Function.update dir filename (some ((dir filename).getD [] ++ bytes))

/-- `InputStream.read` fills at least one byte of the buffer of 1024. -/
def chunkSize (count : Nat) : Nat :=
  max 1 (min count 1024)

/-- How `copyFile` ends: it returns, an `IOException` leaves it, or the process
dies; the rest of the script and the directory go with it. -/
inductive CopyEnd
  | returned (script : List Outcome) (dir : FilesDir)
  | raised (script : List Outcome) (dir : FilesDir)
  | died (dir : FilesDir)

/-- `copyFile`, with `rest` still to be read from the asset. -/
def copyFile (filename : String) :
    List Outcome → Bytes → FilesDir → CopyEnd
  | [], _, dir => .died dir
  | .fails _ :: script, _, dir => .raised script dir
  -- `read` returns -1.
  | .ok _ :: script, [], dir => .returned script dir
  -- The chunk has been read and not written.
  | [.ok _], _ :: _, dir => .died dir
  | .ok count :: .fails written :: script, byte :: rest, dir =>
      .raised script (dir.append filename
        (((byte :: rest).take (chunkSize count)).take written))
  | .ok count :: .ok _ :: script, byte :: rest, dir =>
      copyFile filename script ((byte :: rest).drop (chunkSize count))
        (dir.append filename ((byte :: rest).take (chunkSize count)))

/-- How the copy of one asset ends: the loop goes on, with a note whether an
operation failed, or the process dies. -/
inductive AssetEnd
  | passed (script : List Outcome) (dir : FilesDir) (failed : Bool)
  | died (dir : FilesDir)

/-- The `finally` block: close `streams` streams, ignoring failures. -/
def close (dir : FilesDir) : Nat → List Outcome → Bool → AssetEnd
  | 0, script, failed => .passed script dir failed
  | _ + 1, [], _ => .died dir
  | streams + 1, .ok _ :: script, failed => close dir streams script failed
  | streams + 1, .fails _ :: script, _ => close dir streams script true

/-- The body of the loop: open, create, copy, close. -/
def copyAsset (assets : Assets) (filename : String) (dir : FilesDir) :
    List Outcome → AssetEnd
  | [] => .died dir
  | .fails _ :: script => .passed script dir true
  | .ok _ :: script =>
      match assets.contents filename with
      -- `assets.open` throws for a directory; the loop goes on.
      | none => .passed script dir false
      | some contents =>
          match script with
          | [] => .died dir
          -- The target cannot be created; only the input is open.
          | .fails _ :: script => close dir 1 script true
          | .ok _ :: script =>
              match copyFile filename script contents (dir.create filename) with
              | .died dir => .died dir
              | .raised script dir => close dir 2 script true
              | .returned script dir => close dir 2 script false

/-- How a run ends, with the directory it leaves and a note whether an
operation failed. -/
inductive RunEnd
  | returned (dir : FilesDir) (failed : Bool)
  | died (dir : FilesDir)

/-- The loop over the listed names. -/
def copyAll (assets : Assets) :
    List String → List Outcome → FilesDir → Bool → RunEnd
  | [], _, dir, failed => .returned dir failed
  | filename :: names, script, dir, failed =>
      match copyAsset assets filename dir script with
      | .died dir => .died dir
      | .passed script dir failedHere =>
          copyAll assets names script dir (failed || failedHere)

/-- Both model files exist. -/
def ModelsExist (dir : FilesDir) : Prop :=
  (dir MODEL_DATA).isSome ∧ (dir TOY_MODEL_DATA).isSome

instance (dir : FilesDir) : Decidable (ModelsExist dir) :=
  inferInstanceAs (Decidable (_ ∧ _))

/-- `copyAssets`. -/
def copyAssets (assets : Assets) (script : List Outcome) (dir : FilesDir) :
    RunEnd :=
  if ModelsExist dir then
    .returned dir false
  else
    match script with
    | [] => .died dir
    -- The listing fails and `files` stays null.
    | .fails _ :: _ => .returned dir true
    | .ok _ :: script => copyAll assets assets.names script dir false

/-- The directory a run leaves behind. -/
def RunEnd.dir : RunEnd → FilesDir
  | .returned dir _ => dir
  | .died dir => dir

/-- The process has come out of the copy. -/
def RunEnd.alive : RunEnd → Bool
  | .returned _ _ => true
  | .died _ => false

/-! ## Copies that went through -/

/-- Every listed asset that can be opened has a complete copy. -/
def AllComplete (assets : Assets) (dir : FilesDir) : Prop :=
  ∀ filename ∈ assets.names, ∀ contents,
    assets.contents filename = some contents → dir filename = some contents

/-- The directory after a copy of `names` without a failure. -/
def withCopies (assets : Assets) (names : List String) (dir : FilesDir) :
    FilesDir :=
  fun filename =>
    if filename ∈ names then (assets.contents filename).or (dir filename)
    else dir filename

theorem append_of_some {dir : FilesDir} {filename : String} {old : Bytes}
    (hold : dir filename = some old) (bytes : Bytes) :
    dir.append filename bytes =
      Function.update dir filename (some (old ++ bytes)) := by
  rw [FilesDir.append, hold, Option.getD_some]

/-- A `copyFile` that returns has appended everything that was left to read.
The induction follows the rounds of the loop. -/
theorem copyFile_returned {filename : String} {script script' : List Outcome}
    {rest old : Bytes} {dir dir' : FilesDir}
    (hold : dir filename = some old)
    (hcopy : copyFile filename script rest dir = .returned script' dir') :
    dir' = Function.update dir filename (some (old ++ rest)) := by
  induction script, rest, dir using copyFile.induct filename
    generalizing old with
  | case1 rest dir => simp [copyFile] at hcopy
  | case2 count script rest dir => simp [copyFile] at hcopy
  | case3 count script dir =>
      simp only [copyFile, CopyEnd.returned.injEq] at hcopy
      rw [← hcopy.2, List.append_nil, ← hold, Function.update_eq_self]
  | case4 count byte rest dir => simp [copyFile] at hcopy
  | case5 count written script byte rest dir => simp [copyFile] at hcopy
  | case6 count count' script byte rest dir ih =>
      -- What the round appends and what it leaves make up the rest.
      have hround := append_of_some hold ((byte :: rest).take (chunkSize count))
      have hnext := ih (by rw [hround, Function.update_self]) hcopy
      rw [hnext, hround, Function.update_idem, List.append_assoc,
        List.take_append_drop]

theorem close_eq_passed {dir dir' : FilesDir} {streams : Nat}
    {script script' : List Outcome} {failed failed' : Bool}
    (hclose : close dir streams script failed = .passed script' dir' failed') :
    dir' = dir ∧ (failed' = false → failed = false) := by
  induction streams generalizing script failed with
  | zero =>
      simp only [close, AssetEnd.passed.injEq] at hclose
      obtain ⟨_, hdir, hfailed⟩ := hclose
      exact ⟨hdir.symm, fun h => hfailed.trans h⟩
  | succ streams ih =>
      cases script with
      | nil => simp [close] at hclose
      | cons outcome script =>
          cases outcome with
          | ok count => exact ih hclose
          | fails count =>
              obtain ⟨hdir, hfailed⟩ := ih hclose
              exact ⟨hdir, fun h => absurd (hfailed h) (by decide)⟩

theorem withCopies_singleton_of_none {assets : Assets} {filename : String}
    (hcontents : assets.contents filename = none) (dir : FilesDir) :
    withCopies assets [filename] dir = dir := by
  ext1 other
  rw [withCopies]
  by_cases hsame : other = filename
  · subst hsame
    simp [hcontents]
  · simp [hsame]

theorem withCopies_singleton_of_some {assets : Assets} {filename : String}
    {contents : Bytes} (hcontents : assets.contents filename = some contents)
    (dir : FilesDir) :
    withCopies assets [filename] dir =
      Function.update dir filename (some contents) := by
  ext1 other
  rw [withCopies]
  by_cases hsame : other = filename
  · subst hsame
    simp [hcontents]
  · simp [hsame]

/-- One asset, copied without a failure. -/
theorem copyAsset_clean {assets : Assets} {filename : String}
    {dir dir' : FilesDir} {script script' : List Outcome}
    (hcopy : copyAsset assets filename dir script = .passed script' dir' false) :
    dir' = withCopies assets [filename] dir := by
  match script with
  | [] => simp [copyAsset] at hcopy
  | .fails _ :: script => simp [copyAsset] at hcopy
  | .ok _ :: script =>
      rw [copyAsset] at hcopy
      cases hcontents : assets.contents filename with
      | none =>
          simp only [hcontents, AssetEnd.passed.injEq] at hcopy
          rw [withCopies_singleton_of_none hcontents]
          exact hcopy.2.1.symm
      | some contents =>
          rw [withCopies_singleton_of_some hcontents]
          match script with
          | [] => simp [hcontents] at hcopy
          | .fails _ :: script =>
              simp only [hcontents] at hcopy
              exact absurd ((close_eq_passed hcopy).2 rfl) (by decide)
          | .ok _ :: script =>
              simp only [hcontents] at hcopy
              cases hfile : copyFile filename script contents
                  (dir.create filename) with
              | died dir => simp [hfile] at hcopy
              | raised script dir =>
                  simp only [hfile] at hcopy
                  exact absurd ((close_eq_passed hcopy).2 rfl) (by decide)
              | returned script copied =>
                  simp only [hfile] at hcopy
                  have hempty : dir.create filename filename = some [] :=
                    Function.update_self _ _ _
                  have hcopied := copyFile_returned hempty hfile
                  rw [(close_eq_passed hcopy).1, hcopied, FilesDir.create,
                    Function.update_idem, List.nil_append]

theorem withCopies_cons (assets : Assets) (filename : String)
    (names : List String) (dir : FilesDir) :
    withCopies assets names (withCopies assets [filename] dir) =
      withCopies assets (filename :: names) dir := by
  ext1 other
  cases hcontents : assets.contents other with
  | none => simp [withCopies, hcontents]
  | some contents =>
      -- A name listed twice is copied twice, with the same contents.
      by_cases hlater : other ∈ names
      · simp [withCopies, hcontents, hlater]
      · simp [withCopies, hcontents, hlater]

/-- A loop that ends without a failure has copied every name. -/
theorem copyAll_clean {assets : Assets} {names : List String}
    {script : List Outcome} {dir dir' : FilesDir} {failed : Bool}
    (hcopy : copyAll assets names script dir failed = .returned dir' false) :
    failed = false ∧ dir' = withCopies assets names dir := by
  induction names generalizing script dir failed with
  | nil =>
      simp only [copyAll, RunEnd.returned.injEq] at hcopy
      refine ⟨hcopy.2, ?_⟩
      rw [← hcopy.1]
      ext1 other
      simp [withCopies]
  | cons filename names ih =>
      rw [copyAll] at hcopy
      cases hasset : copyAsset assets filename dir script with
      | died dir => simp [hasset] at hcopy
      | passed script copied failedHere =>
          simp only [hasset] at hcopy
          obtain ⟨hfailed, hrest⟩ := ih hcopy
          obtain ⟨hbefore, hhere⟩ := Bool.or_eq_false_iff.mp hfailed
          rw [hhere] at hasset
          refine ⟨hbefore, ?_⟩
          rw [hrest, copyAsset_clean hasset, withCopies_cons]

theorem allComplete_withCopies (assets : Assets) (dir : FilesDir) :
    AllComplete assets (withCopies assets assets.names dir) := by
  intro filename hlisted contents hcontents
  rw [withCopies, if_pos hlisted, hcontents, Option.some_or]

/-- A run that copies and ends without a failure leaves every asset complete,
whatever it found. -/
theorem copyAssets_clean {assets : Assets} {script : List Outcome}
    {dir dir' : FilesDir} (hmissing : ¬ ModelsExist dir)
    (hrun : copyAssets assets script dir = .returned dir' false) :
    AllComplete assets dir' := by
  unfold copyAssets at hrun
  rw [if_neg hmissing] at hrun
  match script with
  | [] => simp at hrun
  | .fails _ :: script => simp at hrun
  | .ok _ :: script =>
      rw [(copyAll_clean hrun).2]
      exact allComplete_withCopies assets dir

end Utils
end ImportDlibDemo
