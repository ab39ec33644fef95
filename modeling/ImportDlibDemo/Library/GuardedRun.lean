import Mathlib.Data.List.Basic

/-!
# Runs of partial transition functions and the guards that keep an invariant

A component is a function `step : σ → α → Option σ`.  `none` ends the run: the
action is not enabled, or the process did not survive it.  Nondeterminism of the
environment lives in the action `α`, so a list of actions fixes one run and a
statement about all lists is a statement about all runs.

* `Always` — a predicate on states holds at every point of the run;
* `EachStep` — a predicate on (state before, action) holds of every step taken;
* `always_iff_eachStep` — the bridge: an invariant holds along a run exactly
  when every step of the run meets a guard, provided the guard describes, at
  each single step, whether the invariant survives it.
-/

namespace ImportDlibDemo
namespace Library
namespace GuardedRun

variable {σ α : Type*}

/-- Take the actions in order; `none` once a step has ended the run. -/
def run (step : σ → α → Option σ) : σ → List α → Option σ
  | s, [] => some s
  | s, a :: rest =>
      match step s a with
      | none => none
      | some next => run step next rest

/-- `P` holds of every state of the run, the first one included. -/
def Always (step : σ → α → Option σ) (P : σ → Prop) : σ → List α → Prop
  | s, [] => P s
  | s, a :: rest => P s ∧ ∀ next, step s a = some next → Always step P next rest

/-- `G` holds of every step of the run, judged on the state before the step. -/
def EachStep (step : σ → α → Option σ) (G : σ → α → Prop) : σ → List α → Prop
  | _, [] => True
  | s, a :: rest =>
      G s a ∧ ∀ next, step s a = some next → EachStep step G next rest

variable {step : σ → α → Option σ}

@[simp] theorem run_nil (s : σ) : run step s [] = some s := rfl

theorem run_cons_of_some {s next : σ} {a : α} {rest : List α}
    (hstep : step s a = some next) :
    run step s (a :: rest) = run step next rest := by
  simp [run, hstep]

theorem run_append (s : σ) (before after : List α) :
    run step s (before ++ after) =
      (run step s before).bind fun middle => run step middle after := by
  induction before generalizing s with
  | nil => rfl
  | cons a rest ih =>
      cases hstep : step s a with
      | none => simp [run, hstep]
      | some next =>
          rw [List.cons_append, run_cons_of_some hstep, run_cons_of_some hstep]
          exact ih next

/-- The first state of a run satisfies what the whole run satisfies. -/
theorem Always.head {P : σ → Prop} {s : σ} {actions : List α}
    (h : Always step P s actions) : P s := by
  cases actions with
  | nil => exact h
  | cons a rest => exact h.1

/-- `Always` speaks about exactly the states reached by the prefixes. -/
theorem always_iff_forall_prefix {P : σ → Prop} {s : σ} {actions : List α} :
    Always step P s actions ↔
      ∀ before after reached, actions = before ++ after →
        run step s before = some reached → P reached := by
  induction actions generalizing s with
  | nil =>
      constructor
      · intro h before after reached hsplit hrun
        obtain ⟨rfl, rfl⟩ := List.nil_eq_append_iff.mp hsplit
        cases hrun
        exact h
      · intro h
        exact h [] [] s rfl rfl
  | cons a rest ih =>
      constructor
      · rintro ⟨hhead, htail⟩ before after reached hsplit hrun
        cases before with
        | nil =>
            cases hrun
            exact hhead
        | cons b before =>
            -- The prefix takes the first step, so `a` was enabled.
            obtain ⟨rfl, hrest⟩ := List.cons.inj hsplit
            cases hstep : step s a with
            | none => simp [run, hstep] at hrun
            | some next =>
                rw [run_cons_of_some hstep] at hrun
                exact ih.mp (htail next hstep) before after reached hrest hrun
      · intro h
        refine ⟨h [] (a :: rest) s rfl rfl, ?_⟩
        intro next hstep
        apply ih.mpr
        intro before after reached hsplit hrun
        apply h (a :: before) after reached
        · rw [hsplit, List.cons_append]
        · rw [run_cons_of_some hstep]
          exact hrun

/-- The state a completed run ends in satisfies what the whole run does. -/
theorem Always.last {P : σ → Prop} {s final : σ} {actions : List α}
    (h : Always step P s actions) (hrun : run step s actions = some final) :
    P final :=
  always_iff_forall_prefix.mp h actions [] final
    (List.append_nil actions).symm hrun

theorem Always.imp {P Q : σ → Prop} (hPQ : ∀ s, P s → Q s) {s : σ}
    {actions : List α} (h : Always step P s actions) :
    Always step Q s actions := by
  induction actions generalizing s with
  | nil => exact hPQ s h
  | cons a rest ih =>
      exact ⟨hPQ s h.1, fun next hstep => ih (h.2 next hstep)⟩

theorem EachStep.imp {G G' : σ → α → Prop} (hGG' : ∀ s a, G s a → G' s a)
    {s : σ} {actions : List α} (h : EachStep step G s actions) :
    EachStep step G' s actions := by
  induction actions generalizing s with
  | nil => trivial
  | cons a rest ih =>
      exact ⟨hGG' s a h.1, fun next hstep => ih (h.2 next hstep)⟩

/-- A guard that a state predicate implies is met wherever the predicate holds
along the run. -/
theorem Always.eachStep {P : σ → Prop} {G : σ → α → Prop}
    (hPG : ∀ s a, P s → G s a) {s : σ} {actions : List α}
    (h : Always step P s actions) : EachStep step G s actions := by
  induction actions generalizing s with
  | nil => trivial
  | cons a rest ih =>
      exact ⟨hPG s a h.1, fun next hstep => ih (h.2 next hstep)⟩

/-- A guard that is a matter of the state alone is met by every step of a run
and by whatever step comes next exactly when it holds all along the run. -/
theorem eachStep_append_iff_always [Nonempty α] {P : σ → Prop}
    {G : σ → α → Prop} (hGP : ∀ s a, G s a ↔ P s) {s : σ} {actions : List α} :
    (∀ later, EachStep step G s (actions ++ [later])) ↔
      Always step P s actions := by
  induction actions generalizing s with
  | nil =>
      constructor
      · intro h
        obtain ⟨a⟩ := ‹Nonempty α›
        exact (hGP s a).mp (h a).1
      · exact fun hP later => ⟨(hGP s later).mpr hP, fun _ _ => trivial⟩
  | cons a rest ih =>
      constructor
      · intro h
        refine ⟨(hGP s a).mp (h a).1, ?_⟩
        intro next hstep
        exact ih.mp fun later => (h later).2 next hstep
      · rintro ⟨hP, htail⟩ later
        refine ⟨(hGP s a).mpr hP, ?_⟩
        intro next hstep
        exact ih.mpr (htail next hstep) later

theorem eachStep_cons_of_none {G : σ → α → Prop} {s : σ} {a : α}
    {rest : List α} (hstep : step s a = none) :
    EachStep step G s (a :: rest) ↔ G s a := by
  simp [EachStep, hstep]

theorem eachStep_cons_of_some {G : σ → α → Prop} {s next : σ} {a : α}
    {rest : List α} (hstep : step s a = some next) :
    EachStep step G s (a :: rest) ↔ G s a ∧ EachStep step G next rest := by
  simp [EachStep, hstep]

/-- A decidable guard can be checked along a run. -/
instance decidableEachStep {G : σ → α → Prop} [∀ s a, Decidable (G s a)] :
    ∀ (s : σ) (actions : List α), Decidable (EachStep step G s actions)
  | _, [] => isTrue trivial
  | s, a :: rest =>
      match hstep : step s a with
      | none => decidable_of_iff _ (eachStep_cons_of_none hstep).symm
      | some next =>
          have : Decidable (EachStep step G next rest) :=
            decidableEachStep next rest
          decidable_of_iff _ (eachStep_cons_of_some hstep).symm

/-- Guards that agree step by step agree on every run. -/
theorem eachStep_congr {G G' : σ → α → Prop} (hiff : ∀ s a, G s a ↔ G' s a)
    {s : σ} {actions : List α} :
    EachStep step G s actions ↔ EachStep step G' s actions :=
  ⟨EachStep.imp fun s a => (hiff s a).mp, EachStep.imp fun s a => (hiff s a).mpr⟩

/-- Guards that agree wherever an invariant of every step holds agree on every
run from such a state. -/
theorem eachStep_congr_of_invariant {J : σ → Prop} {G G' : σ → α → Prop}
    (hinv : ∀ s a next, J s → step s a = some next → J next)
    (hiff : ∀ s a, J s → (G s a ↔ G' s a)) {s : σ} (hJ : J s)
    (actions : List α) :
    EachStep step G s actions ↔ EachStep step G' s actions := by
  induction actions generalizing s with
  | nil => exact Iff.rfl
  | cons a rest ih =>
      refine and_congr (hiff s a hJ) (forall_congr' fun next => ?_)
      exact imp_congr_right fun hstep => ih (hinv s a next hJ hstep)

/-- When `f` takes the steps of one run to those of another, a predicate holds along
the image exactly when it holds of the images along the run. -/
theorem always_image_iff {τ : Type*} {step' : τ → α → Option τ} {f : τ → σ}
    (himage : ∀ t a, step (f t) a = (step' t a).map f) {P : σ → Prop} {t : τ}
    {actions : List α} :
    Always step P (f t) actions ↔ Always step' (fun t => P (f t)) t actions := by
  induction actions generalizing t with
  | nil => exact Iff.rfl
  | cons a rest ih =>
      refine and_congr_right fun _ => ?_
      rw [himage]
      constructor
      · intro htail next hstep
        exact ih.mp (htail (f next) (by rw [hstep, Option.map_some]))
      · intro htail next hstep
        obtain ⟨next, hnext, rfl⟩ := Option.map_eq_some_iff.mp hstep
        exact ih.mpr (htail next hnext)

/-- What every step keeps holds along every run. -/
theorem always_of_step {P : σ → Prop}
    (hpreserve : ∀ s a next, P s → step s a = some next → P next) {s : σ}
    (hstart : P s) (actions : List α) : Always step P s actions := by
  induction actions generalizing s with
  | nil => exact hstart
  | cons a rest ih =>
      exact ⟨hstart, fun next hstep => ih (hpreserve s a next hstart hstep)⟩

/-- Run rule: an invariant that every guarded step preserves holds along
every run whose steps all meet the guard. -/
theorem always_of_eachStep {P : σ → Prop} {G : σ → α → Prop}
    (hpreserve : ∀ s a next, P s → G s a → step s a = some next → P next)
    {s : σ} {actions : List α} (hstart : P s)
    (hguard : EachStep step G s actions) : Always step P s actions := by
  induction actions generalizing s with
  | nil => exact hstart
  | cons a rest ih =>
      refine ⟨hstart, ?_⟩
      intro next hstep
      exact ih (hpreserve s a next hstart hguard.1 hstep) (hguard.2 next hstep)

/-- Obligation rule: along a run whose steps all meet the guard, every step
meets what the guard ensures wherever the invariant holds, provided guarded steps
keep the invariant. -/
theorem eachStep_of_eachStep {P : σ → Prop} {G G' : σ → α → Prop}
    (hpreserve : ∀ s a next, P s → G s a → step s a = some next → P next)
    (hensure : ∀ s a, P s → G s a → G' s a) {s : σ} {actions : List α}
    (hstart : P s) (hguard : EachStep step G s actions) :
    EachStep step G' s actions := by
  induction actions generalizing s with
  | nil => trivial
  | cons a rest ih =>
      refine ⟨hensure s a hstart hguard.1, ?_⟩
      intro next hstep
      exact ih (hpreserve s a next hstart hguard.1 hstep) (hguard.2 next hstep)

/-- The exact guard of an invariant.  `J` is an auxiliary invariant that every
step keeps.  If, from a state with `J` and `P`, a step keeps `P` exactly when
it meets the guard, then `P` holds along a run exactly when every step of the
run meets the guard. -/
theorem always_iff_eachStep {J P : σ → Prop} {G : σ → α → Prop}
    (hinv : ∀ s a next, J s → step s a = some next → J next)
    (hexact : ∀ s a, J s → P s →
      ((∀ next, step s a = some next → P next) ↔ G s a))
    {s : σ} (hJ : J s) (hP : P s) (actions : List α) :
    Always step P s actions ↔ EachStep step G s actions := by
  induction actions generalizing s with
  | nil => exact ⟨fun _ => trivial, fun _ => hP⟩
  | cons a rest ih =>
      constructor
      · rintro ⟨_, htail⟩
        -- All the guard needs to know is that the next state keeps `P`.
        have hkept : ∀ next, step s a = some next → P next :=
          fun next hstep => (htail next hstep).head
        refine ⟨(hexact s a hJ hP).mp hkept, ?_⟩
        intro next hstep
        exact (ih (hinv s a next hJ hstep) (hkept next hstep)).mp
          (htail next hstep)
      · rintro ⟨hguard, htail⟩
        refine ⟨hP, ?_⟩
        intro next hstep
        have hnext : P next := (hexact s a hJ hP).mpr hguard next hstep
        exact (ih (hinv s a next hJ hstep) hnext).mpr (htail next hstep)

end GuardedRun
end Library
end ImportDlibDemo
