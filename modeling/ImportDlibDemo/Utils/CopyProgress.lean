import ImportDlibDemo.Utils.CopyAssets

/-!
# How far a run of `copyAssets` gets

What a run does to the directory is decided by the outcomes of its operations
and by the lengths of the assets: `runProgress` counts the bytes each file gets
before a failure or the death of the process, without looking at a directory.
A run leaves what it found with those beginnings of the assets over it
(`copyAssets_dir`).
-/

namespace ImportDlibDemo
namespace Utils

/-- How far `copyFile` gets with `left` bytes still to be read: the bytes it
writes, and the rest of the script as long as the process lives. -/
def copyProgress : List Outcome → Nat → Nat × Option (List Outcome)
  | [], _ => (0, none)
  | .fails _ :: script, _ => (0, some script)
  | .ok _ :: script, 0 => (0, some script)
  | [.ok _], _ + 1 => (0, none)
  | .ok count :: .fails written :: script, left + 1 =>
      (min written (min (chunkSize count) (left + 1)), some script)
  | .ok count :: .ok _ :: script, left + 1 =>
      let later := copyProgress script (left + 1 - chunkSize count)
      (min (chunkSize count) (left + 1) + later.1, later.2)

/-- Closing a stream takes one operation, and its failure is ignored. -/
def closeProgress : Nat → List Outcome → Option (List Outcome)
  | 0, script => some script
  | _ + 1, [] => none
  | streams + 1, _ :: script => closeProgress streams script

/-- How far the copy of one asset gets: the bytes in its file if it creates the
file, and the rest of the script as long as the process lives. -/
def assetProgress (assets : Assets) (filename : String) :
    List Outcome → Option Nat × Option (List Outcome)
  | [] => (none, none)
  | .fails _ :: script => (none, some script)
  | .ok _ :: script =>
      match assets.contents filename with
      | none => (none, some script)
      | some contents =>
          match script with
          | [] => (none, none)
          | .fails _ :: script => (none, closeProgress 1 script)
          | .ok _ :: script =>
              let copied := copyProgress script contents.length
              (some copied.1, copied.2.bind (closeProgress 2))

/-- A file the copy of an asset creates is noted, with the bytes it gets. -/
def noteProgress (seen : String → Option Nat) (filename : String)
    (created : Option Nat) : String → Option Nat :=
  match created with
  | none => seen
  | some written => Function.update seen filename (some written)

/-- How far the loop gets, over what the earlier names got. -/
def loopProgress (assets : Assets) :
    List String → List Outcome → (String → Option Nat) → String → Option Nat
  | [], _, seen => seen
  | filename :: names, script, seen =>
      let here := assetProgress assets filename script
      let noted := noteProgress seen filename here.1
      match here.2 with
      | none => noted
      | some script => loopProgress assets names script noted

/-- The files a run that copies creates, each with the number of bytes it gets:
a matter of the outcomes of the run's operations alone. -/
def runProgress (assets : Assets) (script : List Outcome) :
    String → Option Nat :=
  match script with
  | .ok _ :: script => loopProgress assets assets.names script fun _ => none
  | _ => fun _ => none

/-- A directory with the beginnings of assets written over it. -/
def overlay (assets : Assets) (progress : String → Option Nat)
    (dir : FilesDir) : FilesDir :=
  fun filename =>
    match progress filename with
    | none => dir filename
    | some written => some (((assets.contents filename).getD []).take written)

/-- One writing over another. -/
theorem overlay_overlay (assets : Assets) (later earlier : String → Option Nat)
    (dir : FilesDir) :
    overlay assets later (overlay assets earlier dir) =
      overlay assets (fun filename => (later filename).or (earlier filename))
        dir := by
  ext1 filename
  rw [overlay, overlay, overlay]
  cases later filename with
  | none => rfl
  | some written => rfl

/-- The directory the copy of a file leaves behind. -/
def CopyEnd.dir : CopyEnd → FilesDir
  | .returned _ dir => dir
  | .raised _ dir => dir
  | .died dir => dir

/-- What is left of the script as long as the process lives. -/
def CopyEnd.script : CopyEnd → Option (List Outcome)
  | .returned script _ => some script
  | .raised script _ => some script
  | .died _ => none

/-- The directory the copy of one asset leaves behind. -/
def AssetEnd.dir : AssetEnd → FilesDir
  | .passed _ dir _ => dir
  | .died dir => dir

/-- What is left of the script as long as the process lives. -/
def AssetEnd.script : AssetEnd → Option (List Outcome)
  | .passed script _ _ => some script
  | .died _ => none

/-! ## One file -/

theorem take_chunk_append (written chunk : Nat) (bytes : Bytes) :
    bytes.take (min chunk bytes.length + written) =
      bytes.take chunk ++ (bytes.drop chunk).take written := by
  rcases Nat.le_total chunk bytes.length with hshort | hlong
  · rw [Nat.min_eq_left hshort, List.take_add]
  · rw [Nat.min_eq_right hlong, List.drop_eq_nil_of_le hlong,
      List.take_of_length_le hlong, List.take_nil, List.append_nil,
      List.take_of_length_le (Nat.le_add_right _ _)]

/-- `copyFile` appends as many bytes as its outcomes let it write.  The
induction follows the rounds of the loop. -/
theorem copyFile_dir {filename : String} {script : List Outcome}
    {rest old : Bytes} {dir : FilesDir} (hold : dir filename = some old) :
    (copyFile filename script rest dir).dir =
      Function.update dir filename
        (some (old ++ rest.take (copyProgress script rest.length).1)) := by
  have hnothing : Function.update dir filename (some (old ++ [])) = dir := by
    rw [List.append_nil, ← hold, Function.update_eq_self]
  induction script, rest, dir using copyFile.induct filename
    generalizing old with
  | case1 rest dir =>
      simp only [copyFile, copyProgress, List.take_zero]
      exact hnothing.symm
  | case2 count script rest dir =>
      simp only [copyFile, copyProgress, List.take_zero]
      exact hnothing.symm
  | case3 count script dir =>
      simp only [copyFile, List.take_nil]
      exact hnothing.symm
  | case4 count byte rest dir =>
      simp only [copyFile, copyProgress, List.length_cons, List.take_zero]
      exact hnothing.symm
  | case5 count written script byte rest dir =>
      simp only [copyFile, copyProgress, List.length_cons]
      show dir.append filename _ = _
      rw [append_of_some hold, List.take_take, ← List.length_cons (a := byte),
        ← Nat.min_assoc, List.take_eq_take_min (i := min written _)]
  | case6 count count' script byte rest dir ih =>
      have hround := append_of_some hold ((byte :: rest).take (chunkSize count))
      have hnext := ih (by rw [hround, Function.update_self])
        (by
          rw [List.append_nil, Function.update_eq_self_iff, hround,
            Function.update_self])
      rw [copyFile, hnext, hround, Function.update_idem, List.append_assoc]
      simp only [copyProgress, List.length_cons]
      rw [← List.length_cons (a := byte), take_chunk_append, List.length_drop]

theorem copyFile_script (filename : String) (script : List Outcome)
    (rest : Bytes) (dir : FilesDir) :
    (copyFile filename script rest dir).script =
      (copyProgress script rest.length).2 := by
  induction script, rest, dir using copyFile.induct filename with
  | case1 rest dir => simp only [copyFile, copyProgress, CopyEnd.script]
  | case2 count script rest dir =>
      simp only [copyFile, copyProgress, CopyEnd.script]
  | case3 count script dir =>
      simp only [copyFile, copyProgress, CopyEnd.script, List.length_nil]
  | case4 count byte rest dir =>
      simp only [copyFile, copyProgress, CopyEnd.script, List.length_cons]
  | case5 count written script byte rest dir =>
      simp only [copyFile, copyProgress, CopyEnd.script, List.length_cons]
  | case6 count count' script byte rest dir ih =>
      rw [copyFile, ih]
      simp only [copyProgress, List.length_cons, List.length_drop]

/-! ## One asset -/

theorem close_dir (dir : FilesDir) (streams : Nat) (script : List Outcome)
    (failed : Bool) : (close dir streams script failed).dir = dir := by
  induction streams generalizing script failed with
  | zero => rfl
  | succ streams ih =>
      cases script with
      | nil => rfl
      | cons outcome script =>
          cases outcome with
          | ok count => exact ih script failed
          | fails count => exact ih script true

theorem close_script (dir : FilesDir) (streams : Nat) (script : List Outcome)
    (failed : Bool) :
    (close dir streams script failed).script = closeProgress streams script := by
  induction streams generalizing script failed with
  | zero => rfl
  | succ streams ih =>
      cases script with
      | nil => rfl
      | cons outcome script =>
          cases outcome with
          | ok count => exact ih script failed
          | fails count => exact ih script true

theorem overlay_note_some {assets : Assets} {filename : String}
    {contents : Bytes} (hcontents : assets.contents filename = some contents)
    (seen : String → Option Nat) (written : Nat) (dir : FilesDir) :
    overlay assets (noteProgress seen filename (some written)) dir =
      Function.update (overlay assets seen dir) filename
        (some (contents.take written)) := by
  ext1 other
  by_cases hsame : other = filename
  · subst hsame
    simp [overlay, noteProgress, hcontents]
  · simp [overlay, noteProgress, hsame]

/-- The copy of one asset leaves the directory with what the asset got. -/
theorem copyAsset_dir (assets : Assets) (filename : String)
    (script : List Outcome) (seen : String → Option Nat) (dir : FilesDir) :
    (copyAsset assets filename (overlay assets seen dir) script).dir =
      overlay assets
        (noteProgress seen filename (assetProgress assets filename script).1)
        dir := by
  match script with
  | [] => rfl
  | .fails _ :: script => rfl
  | .ok _ :: script =>
      rw [copyAsset, assetProgress]
      cases hcontents : assets.contents filename with
      | none => rfl
      | some contents =>
          match script with
          | [] => rfl
          | .fails _ :: script => exact close_dir _ _ _ _
          | .ok _ :: script =>
              have hcreated : (overlay assets seen dir).create filename filename =
                  some [] := Function.update_self _ _ _
              have hcopied :
                  (copyFile filename script contents
                    ((overlay assets seen dir).create filename)).dir =
                  Function.update (overlay assets seen dir) filename
                    (some (contents.take
                      (copyProgress script contents.length).1)) := by
                rw [copyFile_dir hcreated, List.nil_append, FilesDir.create,
                  Function.update_idem]
              simp only
              rw [overlay_note_some hcontents, ← hcopied]
              cases copyFile filename script contents
                ((overlay assets seen dir).create filename) with
              | died dir => rfl
              | raised script dir => exact close_dir _ _ _ _
              | returned script dir => exact close_dir _ _ _ _

theorem copyAsset_script (assets : Assets) (filename : String)
    (script : List Outcome) (dir : FilesDir) :
    (copyAsset assets filename dir script).script =
      (assetProgress assets filename script).2 := by
  match script with
  | [] => rfl
  | .fails _ :: script => rfl
  | .ok _ :: script =>
      rw [copyAsset, assetProgress]
      cases hcontents : assets.contents filename with
      | none => rfl
      | some contents =>
          match script with
          | [] => rfl
          | .fails _ :: script => exact close_script _ _ _ _
          | .ok _ :: script =>
              have hcopied := copyFile_script filename script contents
                (dir.create filename)
              simp only
              rw [← hcopied]
              cases copyFile filename script contents (dir.create filename) with
              | died dir => rfl
              | raised script dir => exact close_script _ _ _ _
              | returned script dir => exact close_script _ _ _ _

/-! ## Whole runs -/

theorem copyAll_dir (assets : Assets) (names : List String)
    (script : List Outcome) (seen : String → Option Nat) (dir : FilesDir)
    (failed : Bool) :
    (copyAll assets names script (overlay assets seen dir) failed).dir =
      overlay assets (loopProgress assets names script seen) dir := by
  induction names generalizing script seen failed with
  | nil => rfl
  | cons filename names ih =>
      have hdir := copyAsset_dir assets filename script seen dir
      have hscript := copyAsset_script assets filename script
        (overlay assets seen dir)
      rw [copyAll, loopProgress]
      cases hcopy : copyAsset assets filename (overlay assets seen dir) script with
      | died dir =>
          rw [hcopy] at hdir hscript
          rw [← hscript]
          exact hdir
      | passed script copied failedHere =>
          rw [hcopy] at hdir hscript
          rw [← hscript]
          change copied = _ at hdir
          rw [hdir]
          exact ih script _ _

/-- A run that copies leaves what it found with the beginnings of the assets
that its outcomes let through written over it. -/
theorem copyAssets_dir {dir : FilesDir} (hmissing : ¬ ModelsExist dir)
    (assets : Assets) (script : List Outcome) :
    (copyAssets assets script dir).dir =
      overlay assets (runProgress assets script) dir := by
  unfold copyAssets
  rw [if_neg hmissing]
  match script with
  | [] => rfl
  | .fails _ :: script => rfl
  | .ok _ :: script =>
      exact copyAll_dir assets assets.names script (fun _ => none) dir false

/-! ## Only assets get bytes -/

theorem noteProgress_asset {assets : Assets} {seen : String → Option Nat}
    (filename : String) (script : List Outcome)
    (hseen : ∀ other, (seen other).isSome → (assets.contents other).isSome)
    (other : String)
    (hnoted : (noteProgress seen filename
      (assetProgress assets filename script).1 other).isSome) :
    (assets.contents other).isSome := by
  cases hcontents : assets.contents filename with
  | none =>
      -- Nothing is created for a name that cannot be opened.
      have hnone : (assetProgress assets filename script).1 = none := by
        match script with
        | [] => rfl
        | .fails _ :: script => rfl
        | .ok _ :: script => rw [assetProgress, hcontents]
      rw [hnone] at hnoted
      exact hseen other hnoted
  | some contents =>
      by_cases hsame : other = filename
      · rw [hsame, hcontents]
        rfl
      · apply hseen other
        cases hcreated : (assetProgress assets filename script).1 with
        | none =>
            rw [hcreated] at hnoted
            exact hnoted
        | some written =>
            rw [hcreated, noteProgress, Function.update_of_ne hsame] at hnoted
            exact hnoted

theorem loopProgress_asset {assets : Assets} {names : List String}
    {script : List Outcome} {seen : String → Option Nat}
    (hseen : ∀ other, (seen other).isSome → (assets.contents other).isSome)
    (other : String)
    (hcreated : (loopProgress assets names script seen other).isSome) :
    (assets.contents other).isSome := by
  induction names generalizing script seen with
  | nil => exact hseen other hcreated
  | cons filename names ih =>
      have hnoted := noteProgress_asset filename script hseen
      rw [loopProgress] at hcreated
      cases hleft : (assetProgress assets filename script).2 with
      | none =>
          simp only [hleft] at hcreated
          exact hnoted other hcreated
      | some script =>
          simp only [hleft] at hcreated
          exact ih hnoted hcreated

/-- A run creates files of assets that can be opened, and no others. -/
theorem runProgress_asset {assets : Assets} {script : List Outcome}
    {filename : String} {written : Nat}
    (hcreated : runProgress assets script filename = some written) :
    ∃ contents, assets.contents filename = some contents := by
  apply Option.isSome_iff_exists.mp
  match script with
  | [] => cases hcreated
  | .fails _ :: script => cases hcreated
  | .ok _ :: script =>
      have hnone : ∀ other, ((fun _ => none : String → Option Nat) other).isSome →
          (assets.contents other).isSome := by
        intro other hseen
        cases hseen
      exact loopProgress_asset hnone filename (Option.isSome_of_eq_some hcreated)

end Utils
end ImportDlibDemo
