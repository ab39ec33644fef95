import Mathlib.Data.List.Basic

/-!
# Loops that consume a byte stream

A loop with a state reads from the front of a stream, a bit every round, until a
round stops it.  `Acts` says what a piece of the stream does to the state,
whatever follows it; the action of a whole stream is put together from those of
its pieces.
-/

namespace ImportDlibDemo
namespace Library
namespace StreamLoop

variable {σ ρ α : Type*}

/-- What one round comes to. -/
inductive Round (σ ρ : Type*)
  | next (state : σ) (rest : List UInt8)
  | stop (result : ρ)

/-- A loop whose rounds read something when they go on. -/
structure Loop (σ ρ : Type*) where
  round : σ → List UInt8 → Round σ ρ
  shorter : ∀ {state bytes next rest},
    round state bytes = .next next rest → rest.length < bytes.length

/-- The result of the loop. -/
def Loop.run (loop : Loop σ ρ) (state : σ) (bytes : List UInt8) : ρ :=
  match _ : loop.round state bytes with
  | .next next rest => loop.run next rest
  | .stop result => result
termination_by bytes.length
decreasing_by exact loop.shorter (by assumption)

variable {loop : Loop σ ρ}

theorem Loop.run_of_next {state next : σ} {bytes rest : List UInt8}
    (hround : loop.round state bytes = .next next rest) :
    loop.run state bytes = loop.run next rest := by
  rw [Loop.run]
  split
  · next heq =>
      rw [hround] at heq
      obtain ⟨rfl, rfl⟩ := Round.next.inj heq
      rfl
  · next heq =>
      rw [hround] at heq
      cases heq

theorem Loop.run_of_stop {state : σ} {bytes : List UInt8} {result : ρ}
    (hround : loop.round state bytes = .stop result) :
    loop.run state bytes = result := by
  rw [Loop.run]
  split
  · next heq =>
      rw [hround] at heq
      cases heq
  · next heq =>
      rw [hround] at heq
      exact (Round.stop.inj heq).symm

/-- Behind the bytes, the loop goes on from the changed state. -/
def Acts (loop : Loop σ ρ) (bytes : List UInt8) (change : σ → σ) : Prop :=
  ∀ state rest, loop.run state (bytes ++ rest) = loop.run (change state) rest

theorem acts_nil : Acts loop [] id := by
  intro state rest
  rfl

/-- Bytes that take one round. -/
theorem acts_of_round {bytes : List UInt8} {change : σ → σ}
    (hround : ∀ state rest,
      loop.round state (bytes ++ rest) = .next (change state) rest) :
    Acts loop bytes change := by
  intro state rest
  exact Loop.run_of_next (hround state rest)

theorem Acts.append {bytes more : List UInt8} {change changeMore : σ → σ}
    (hbytes : Acts loop bytes change) (hmore : Acts loop more changeMore) :
    Acts loop (bytes ++ more) (changeMore ∘ change) := by
  intro state rest
  rw [List.append_assoc, hbytes, hmore]
  rfl

theorem Acts.congr {bytes : List UInt8} {change other : σ → σ}
    (hbytes : Acts loop bytes change)
    (hsame : ∀ state, change state = other state) : Acts loop bytes other := by
  intro state rest
  rw [hbytes, hsame]

/-- A list of pieces acts piece by piece. -/
theorem acts_flatMap {encode : α → List UInt8} {change : α → σ → σ}
    {items : List α}
    (hitems : ∀ item ∈ items, Acts loop (encode item) (change item)) :
    Acts loop (items.flatMap encode)
      (fun state => items.foldl (fun state item => change item state) state) := by
  induction items with
  | nil => exact acts_nil
  | cons item items ih =>
      rw [List.flatMap_cons]
      have hrest := ih fun other hother =>
        hitems other (List.mem_cons_of_mem _ hother)
      exact Acts.append (hitems item List.mem_cons_self) hrest

/-- Pieces that each add an item to a list add all of them in order. -/
theorem acts_flatMap_append {β : Type*} {encode : α → List UInt8} {item : α → β}
    {items : List α} (add : σ → List β → σ) (hnil : ∀ state, add state [] = state)
    (hadd : ∀ state first second,
      add (add state first) second = add state (first ++ second))
    (hitems : ∀ piece ∈ items,
      Acts loop (encode piece) (fun state => add state [item piece])) :
    Acts loop (items.flatMap encode) (fun state => add state (items.map item)) := by
  refine Acts.congr (acts_flatMap hitems) ?_
  intro state
  induction items generalizing state with
  | nil => exact (hnil state).symm
  | cons piece items ih =>
      have hrest := ih fun other hother =>
        hitems other (List.mem_cons_of_mem _ hother)
      rw [List.foldl_cons, hrest, hadd, List.map_cons]
      rfl

/-- The whole stream, when nothing follows its bytes. -/
theorem Acts.run_eq {bytes : List UInt8} {change : σ → σ}
    (hbytes : Acts loop bytes change) (state : σ) :
    loop.run state bytes = loop.run (change state) [] := by
  have h := hbytes state []
  rwa [List.append_nil] at h

end StreamLoop
end Library
end ImportDlibDemo
