import ImportDlibDemo.Library.GuardedRun
import ImportDlibDemo.Utils.CopyProgress

/-!
# Histories of `copyAssets`

One run after another on the same files directory, each with its own script;
a run that dies leaves its directory to the next.  The promise of a run is that
ending without a failure means complete copies.  A run that copies keeps it in
any case; a run that skips the copying keeps it only if what it found was
complete.

* `step_dir` — the directory follows a count of the bytes that the outcomes of
  the runs let through;
* `trustworthy_step_iff` — which runs leave nothing to mislead the next one;
* `keepsPromise_iff` — the exact condition on the outcomes of a history from a
  fresh installation.
-/

namespace ImportDlibDemo
namespace Utils

open Library.GuardedRun

/-- The files directory of a fresh installation. -/
def FilesDir.empty : FilesDir :=
  fun _ => none

/-- One run; the directory goes on to the next one however the run ends. -/
def step (assets : Assets) (dir : FilesDir) (script : List Outcome) :
    Option FilesDir :=
  some (copyAssets assets script dir).dir

/-- If the run ends without a failure, every listed asset that can be opened
has a complete copy. -/
def KeepsPromise (assets : Assets) (dir : FilesDir) (script : List Outcome) :
    Prop :=
  ∀ after, copyAssets assets script dir = .returned after false →
    AllComplete assets after

/-- If both model files exist, the copies are complete. -/
def Trustworthy (assets : Assets) (dir : FilesDir) : Prop :=
  ModelsExist dir → AllComplete assets dir

theorem copyAssets_skips {dir : FilesDir} (hmodels : ModelsExist dir)
    (assets : Assets) (script : List Outcome) :
    copyAssets assets script dir = .returned dir false := by
  unfold copyAssets
  rw [if_pos hmodels]

/-- A run keeps its promise exactly when the directory it finds can be
trusted. -/
theorem keepsPromise_run_iff (assets : Assets) (dir : FilesDir)
    (script : List Outcome) :
    KeepsPromise assets dir script ↔ Trustworthy assets dir := by
  constructor
  · -- A directory with both models makes the run return at once.
    intro hpromise hmodels
    exact hpromise dir (copyAssets_skips hmodels assets script)
  · intro htrust after hrun
    by_cases hmodels : ModelsExist dir
    · rw [copyAssets_skips hmodels] at hrun
      cases hrun
      exact htrust hmodels
    · exact copyAssets_clean hmodels hrun

/-! ## Histories by their outcomes -/

/-- The files that the runs of a history have created, each with the number of bytes
it got from the last of them. -/
abbrev Counts := String → Option Nat

/-- Nothing has run yet. -/
def Counts.empty : Counts :=
  fun _ => none

/-- Both model files have been created. -/
def BothCreated (counts : Counts) : Prop :=
  (counts MODEL_DATA).isSome ∧ (counts TOY_MODEL_DATA).isSome

instance (counts : Counts) : Decidable (BothCreated counts) :=
  inferInstanceAs (Decidable (_ ∧ _))

/-- The counts behind one more run that copies: a file it creates starts over. -/
def Counts.after (assets : Assets) (counts : Counts) (script : List Outcome) :
    Counts :=
  fun filename => (runProgress assets script filename).or (counts filename)

/-- One more run; it copies unless both model files have been created. -/
def countStep (assets : Assets) (counts : Counts) (script : List Outcome) :
    Option Counts :=
  if BothCreated counts then some counts else some (counts.after assets script)

/-- The failures of the run leave a model file that neither it nor an earlier run
has created. -/
def LeavesModelMissing (assets : Assets) (counts : Counts)
    (script : List Outcome) : Prop :=
  ∃ model ∈ [TOY_MODEL_DATA, MODEL_DATA],
    runProgress assets script model = none ∧ counts model = none

/-- The failures of the run leave no asset cut: the last run that created the file
of an asset, this one or an earlier one, has written as many bytes as the asset
has. -/
def LeavesNoneCut (assets : Assets) (counts : Counts) (script : List Outcome) :
    Prop :=
  ∀ filename ∈ assets.names, ∀ contents,
    assets.contents filename = some contents →
      ∃ written, counts.after assets script filename = some written ∧
        contents.length ≤ written

/-- The run skips the copying, or its failures leave a model file missing, or
they leave no asset cut. -/
def SafeRun (assets : Assets) (counts : Counts) (script : List Outcome) : Prop :=
  BothCreated counts ∨ LeavesModelMissing assets counts script ∨
    LeavesNoneCut assets counts script

/-- The directory of a fresh installation after runs with these counts. -/
def Counts.dir (assets : Assets) (counts : Counts) : FilesDir :=
  overlay assets counts FilesDir.empty

theorem dir_eq_none_iff {assets : Assets} {counts : Counts} {filename : String} :
    counts.dir assets filename = none ↔ counts filename = none := by
  rw [Counts.dir, overlay]
  cases counts filename with
  | none => exact iff_of_true rfl rfl
  | some written => simp

theorem modelsExist_dir {assets : Assets} {counts : Counts} :
    ModelsExist (counts.dir assets) ↔ BothCreated counts := by
  simp only [ModelsExist, BothCreated, Option.isSome_iff_ne_none, ne_eq,
    dir_eq_none_iff]

/-- The directory follows the counts. -/
theorem step_dir (assets : Assets) (counts : Counts) (script : List Outcome) :
    step assets (counts.dir assets) script =
      (countStep assets counts script).map (Counts.dir assets) := by
  unfold countStep
  by_cases hcreated : BothCreated counts
  · rw [if_pos hcreated, step, copyAssets_skips (modelsExist_dir.mpr hcreated)]
    rfl
  · rw [if_neg hcreated, step, copyAssets_dir (mt modelsExist_dir.mp hcreated),
      Counts.dir, overlay_overlay]
    rfl

/-- A file is a complete copy exactly when all its bytes have been written. -/
theorem dir_eq_contents_iff {assets : Assets} {counts : Counts}
    {filename : String} {contents : Bytes}
    (hcontents : assets.contents filename = some contents) :
    counts.dir assets filename = some contents ↔
      ∃ written, counts filename = some written ∧ contents.length ≤ written := by
  rw [Counts.dir, overlay, hcontents, Option.getD_some]
  cases counts filename with
  | none => simp [FilesDir.empty]
  | some written => simp [List.take_eq_self_iff]

theorem allComplete_dir_iff {assets : Assets} {counts : Counts}
    {script : List Outcome} :
    AllComplete assets ((counts.after assets script).dir assets) ↔
      LeavesNoneCut assets counts script := by
  constructor
  · intro hcomplete filename hlisted contents hcontents
    exact (dir_eq_contents_iff hcontents).mp
      (hcomplete filename hlisted contents hcontents)
  · intro hwhole filename hlisted contents hcontents
    exact (dir_eq_contents_iff hcontents).mpr
      (hwhole filename hlisted contents hcontents)

/-- A model file is missing behind a copying run exactly when nobody has created
it. -/
theorem not_bothCreated_after_iff {assets : Assets} {counts : Counts}
    {script : List Outcome} :
    ¬ BothCreated (counts.after assets script) ↔
      LeavesModelMissing assets counts script := by
  simp only [BothCreated, LeavesModelMissing, Counts.after, not_and_or,
    Option.not_isSome_iff_eq_none, Option.or_eq_none_iff, List.mem_cons,
    List.not_mem_nil, or_false, exists_eq_or_imp, exists_eq_left]
  exact or_comm

/-- Step lemma: after counts that can be trusted, a run leaves such counts exactly
when it is safe. -/
theorem trustworthy_step_iff {assets : Assets} {counts : Counts}
    {script : List Outcome} (htrust : Trustworthy assets (counts.dir assets)) :
    (∀ next, countStep assets counts script = some next →
      Trustworthy assets (next.dir assets)) ↔ SafeRun assets counts script := by
  unfold countStep
  by_cases hcreated : BothCreated counts
  · -- The run touches nothing.
    rw [if_pos hcreated]
    refine iff_of_true ?_ (Or.inl hcreated)
    rintro _ ⟨⟩
    exact htrust
  · rw [if_neg hcreated]
    simp only [Option.some.injEq, forall_eq']
    rw [Trustworthy, imp_iff_not_or, modelsExist_dir, not_bothCreated_after_iff,
      allComplete_dir_iff, SafeRun, or_iff_right hcreated]

theorem trustworthy_empty (assets : Assets) :
    Trustworthy assets (Counts.empty.dir assets) := by
  rintro ⟨hmodel, _⟩
  cases hmodel

/-- From a fresh installation, every run of a history keeps its promise, and so
does whatever run comes next, exactly when every run of the history is safe: a
matter of the outcomes of the runs alone. -/
theorem keepsPromise_iff (assets : Assets) (history : List (List Outcome)) :
    (∀ later, EachStep (step assets) (KeepsPromise assets) FilesDir.empty
      (history ++ [later])) ↔
      EachStep (countStep assets) (SafeRun assets) Counts.empty history :=
  calc
    _ ↔ Always (step assets) (Trustworthy assets) (Counts.empty.dir assets)
          history :=
      eachStep_append_iff_always (keepsPromise_run_iff assets)
    _ ↔ Always (countStep assets)
          (fun counts => Trustworthy assets (counts.dir assets)) Counts.empty
          history :=
      always_image_iff (step_dir assets)
    _ ↔ _ :=
      always_iff_eachStep (J := fun _ => True) (fun _ _ _ _ _ => trivial)
        (fun _ _ _ htrust => trustworthy_step_iff htrust) trivial
        (trustworthy_empty assets) history

/-- Two model files of one byte each. -/
def twoModels : Assets where
  names := [TOY_MODEL_DATA, MODEL_DATA]
  contents := fun filename =>
    if filename = TOY_MODEL_DATA then some [1]
    else if filename = MODEL_DATA then some [2]
    else none

/-- List the assets, copy the first one, open the second and create its file;
then the process dies. -/
def diesInSecondModel : List Outcome :=
  [.ok 0, .ok 0, .ok 0, .ok 1024, .ok 0, .ok 1024, .ok 0, .ok 0, .ok 0, .ok 0]

/-- The next run trusts the empty second model. -/
theorem interrupted_copy_is_trusted :
    ¬ EachStep (step twoModels) (KeepsPromise twoModels) FilesDir.empty
        [diesInSecondModel, []] := by
  rintro ⟨_, hsecond⟩
  have hpromise := (hsecond _ rfl).1
  have hcomplete := hpromise _ rfl MODEL_DATA (by decide) [2] (by decide)
  exact absurd hcomplete (by decide)

/-! ## What interrupted copies leave

However many runs fail or die, and wherever they do, a file in the directory
holds the beginning of its asset.
-/

/-- Every file holds the beginning of the asset of its name. -/
def BeginningsOnly (assets : Assets) (dir : FilesDir) : Prop :=
  ∀ filename bytes, dir filename = some bytes →
    ∃ contents, assets.contents filename = some contents ∧ bytes <+: contents

theorem BeginningsOnly.of_asset {assets : Assets} {dir : FilesDir}
    (hdir : BeginningsOnly assets dir) {filename : String} {contents : Bytes}
    (hcontents : assets.contents filename = some contents) :
    ∀ bytes, dir filename = some bytes → bytes <+: contents := by
  intro bytes hfound
  obtain ⟨whole, hwhole, hprefix⟩ := hdir filename bytes hfound
  cases hwhole.symm.trans hcontents
  exact hprefix

/-- What a copying run writes over a directory are beginnings of assets. -/
theorem beginningsOnly_overlay {assets : Assets} {dir : FilesDir}
    (hdir : BeginningsOnly assets dir) (script : List Outcome) :
    BeginningsOnly assets (overlay assets (runProgress assets script) dir) := by
  intro filename bytes hfound
  rw [overlay] at hfound
  cases hprogress : runProgress assets script filename with
  | none =>
      rw [hprogress] at hfound
      exact hdir filename bytes hfound
  | some written =>
      obtain ⟨contents, hcontents⟩ := runProgress_asset hprogress
      simp only [hprogress, hcontents, Option.getD_some,
        Option.some.injEq] at hfound
      exact ⟨contents, hcontents, hfound ▸ List.take_prefix written contents⟩

theorem beginningsOnly_empty (assets : Assets) :
    BeginningsOnly assets FilesDir.empty := by
  intro filename bytes hfound
  cases hfound

theorem beginningsOnly_step {assets : Assets} {dir next : FilesDir}
    {script : List Outcome} (hdir : BeginningsOnly assets dir)
    (hstep : step assets dir script = some next) :
    BeginningsOnly assets next := by
  cases hstep
  by_cases hmodels : ModelsExist dir
  · rw [copyAssets_skips hmodels]
    exact hdir
  · rw [copyAssets_dir hmodels]
    exact beginningsOnly_overlay hdir script

end Utils
end ImportDlibDemo
