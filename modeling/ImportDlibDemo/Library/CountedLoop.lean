import Mathlib.Data.Nat.Basic

/-!
# Counted loops that may stop

`for (i = 0; i < count; ++i) body` over an explicit state.  A round either
yields the next state or stops the loop with an error value.  One rule covers
both ends: an invariant indexed by the round number for the states, and one
predicate for the errors.
-/

namespace ImportDlibDemo
namespace Library
namespace CountedLoop

variable {ε σ : Type*}

/-- The remaining `rounds` rounds of a loop whose counter stands at `i`. -/
def loopFrom (body : Nat → σ → Except ε σ) : Nat → Nat → σ → Except ε σ
  | _, 0, s => .ok s
  | i, rounds + 1, s =>
      match body i s with
      | .error e => .error e
      | .ok next => loopFrom body (i + 1) rounds next

/-- `for (i = 0; i < count; ++i) body`. -/
def loop (body : Nat → σ → Except ε σ) (count : Nat) (s : σ) : Except ε σ :=
  loopFrom body 0 count s

/-- The computation ends in a state with `P`, or stops with an error with `Q`. -/
def Ends (result : Except ε σ) (P : σ → Prop) (Q : ε → Prop) : Prop :=
  match result with
  | .ok s => P s
  | .error e => Q e

private theorem loopFrom_ends {body : Nat → σ → Except ε σ}
    {Inv : Nat → σ → Prop} {Q : ε → Prop} (rounds : Nat) :
    ∀ (i : Nat) (s : σ),
      (∀ j s, i ≤ j → j < i + rounds → Inv j s →
        Ends (body j s) (Inv (j + 1)) Q) →
      Inv i s → Ends (loopFrom body i rounds s) (Inv (i + rounds)) Q := by
  induction rounds with
  | zero =>
      intro i s _ hs
      exact hs
  | succ rounds ih =>
      intro i s hbody hs
      have hround := hbody i s le_rfl (by omega) hs
      rw [loopFrom]
      cases hresult : body i s with
      | error e =>
          rw [hresult] at hround
          exact hround
      | ok next =>
          rw [hresult] at hround
          -- The body is asked only for rounds from `i + 1` on.
          have hrest := ih (i + 1) next
            (fun j s hij hj => hbody j s (by omega) (by omega)) hround
          rw [show i + (rounds + 1) = i + 1 + rounds by omega]
          exact hrest

/-- Loop rule: if every round takes `Inv i` to `Inv (i + 1)` or to an error
with `Q`, the loop takes `Inv 0` to `Inv count` or to an error with `Q`. -/
theorem loop_ends {body : Nat → σ → Except ε σ} {Inv : Nat → σ → Prop}
    {Q : ε → Prop} {count : Nat}
    (hbody : ∀ i s, i < count → Inv i s → Ends (body i s) (Inv (i + 1)) Q)
    {s : σ} (hs : Inv 0 s) : Ends (loop body count s) (Inv count) Q := by
  have h := loopFrom_ends count 0 s
    (fun j s _ hj => hbody j s (by omega)) hs
  rwa [Nat.zero_add] at h

private theorem loopFrom_congr {body other : Nat → σ → Except ε σ}
    {Inv : Nat → σ → Prop} (rounds : Nat) :
    ∀ (i : Nat) (s : σ),
      (∀ j s, i ≤ j → j < i + rounds → Inv j s →
        body j s = other j s ∧
          ∀ next, body j s = .ok next → Inv (j + 1) next) →
      Inv i s → loopFrom body i rounds s = loopFrom other i rounds s := by
  induction rounds with
  | zero =>
      intro i s _ _
      rfl
  | succ rounds ih =>
      intro i s hbody hs
      obtain ⟨hsame, hkeep⟩ := hbody i s le_rfl (by omega) hs
      rw [loopFrom, loopFrom, ← hsame]
      cases hresult : body i s with
      | error e => rfl
      | ok next =>
          exact ih (i + 1) next
            (fun j s hij hj => hbody j s (by omega) (by omega))
            (hkeep next hresult)

/-- Relational rule: two loops whose rounds agree under an invariant of the
first one end alike. -/
theorem loop_congr {body other : Nat → σ → Except ε σ}
    {Inv : Nat → σ → Prop} {count : Nat}
    (hbody : ∀ i s, i < count → Inv i s →
      body i s = other i s ∧ ∀ next, body i s = .ok next → Inv (i + 1) next)
    {s : σ} (hs : Inv 0 s) : loop body count s = loop other count s :=
  loopFrom_congr count 0 s (fun j s _ hj => hbody j s (by omega)) hs

end CountedLoop
end Library
end ImportDlibDemo
