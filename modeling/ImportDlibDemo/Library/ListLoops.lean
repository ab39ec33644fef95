import Mathlib.Data.List.Forall2
import Mathlib.Order.Bounds.Basic
import Mathlib.Order.Lattice
import Mathlib.Tactic

/-!
# Loops over lists and views of them

* When every round of a loop that may fail succeeds from where the rounds before
  it lead, the whole loop does (`exists_foldlM_eq_some`, `exists_mapM_eq_some`).
* A loop that keeps the greatest value seen so far, from a starting value on,
  ends with the greatest of the starting value and the list
  (`isGreatest_foldl_max`); the starting value shows in the result exactly when
  the list has nothing as great (`foldl_max_mem_iff`).
* `subList fromIndex toIndex` is the half-open range of a Java list; it throws
  `IndexOutOfBoundsException` (`none`) unless the range lies in the list.  Views
  of adjacent ranges join to the view of the whole range (`subList_append`).
-/

namespace ImportDlibDemo
namespace Library
namespace ListLoops

/-! ## Loops whose rounds may fail -/

section PartialRounds

variable {α β σ : Type*}

/-- A loop whose rounds keep an invariant and succeed under it succeeds, and
keeps it. -/
theorem exists_foldlM_eq_some {Inv : σ → Prop} {body : σ → α → Option σ}
    {list : List α}
    (hround : ∀ s, Inv s → ∀ x ∈ list, ∃ next, body s x = some next ∧ Inv next)
    {s : σ} (hs : Inv s) :
    ∃ final, list.foldlM body s = some final ∧ Inv final := by
  induction list generalizing s with
  | nil => exact ⟨s, rfl, hs⟩
  | cons x rest ih =>
      obtain ⟨next, hnext, hinv⟩ := hround s hs x List.mem_cons_self
      obtain ⟨final, hfinal, hlast⟩ :=
        ih (fun s hs y hy => hround s hs y (List.mem_cons_of_mem x hy)) hinv
      refine ⟨final, ?_, hlast⟩
      rw [List.foldlM_cons, hnext]
      exact hfinal

/-- A list is mapped whole when each element is, one result for each. -/
theorem exists_mapM_eq_some {Q : α → β → Prop} {f : α → Option β}
    {list : List α} (hone : ∀ x ∈ list, ∃ y, f x = some y ∧ Q x y) :
    ∃ results, list.mapM f = some results ∧ List.Forall₂ Q list results := by
  induction list with
  | nil => exact ⟨[], rfl, List.Forall₂.nil⟩
  | cons x rest ih =>
      obtain ⟨y, hy, hxy⟩ := hone x List.mem_cons_self
      obtain ⟨results, hresults, hall⟩ :=
        ih fun z hz => hone z (List.mem_cons_of_mem x hz)
      refine ⟨y :: results, ?_, List.Forall₂.cons hxy hall⟩
      rw [List.mapM_cons, hy, hresults]
      rfl

/-- The elements of the results of a list that is mapped whole. -/
theorem mem_flatten_of_mapM {f : α → Option (List β)} {list : List α}
    {results : List (List β)} (hresults : list.mapM f = some results) {y : β} :
    y ∈ results.flatten ↔ ∃ x ∈ list, ∃ ys, f x = some ys ∧ y ∈ ys := by
  induction list generalizing results with
  | nil =>
      cases hresults
      simp
  | cons x rest ih =>
      rw [List.mapM_cons] at hresults
      obtain ⟨ys, hys, hrest⟩ := Option.bind_eq_some_iff.mp hresults
      obtain ⟨others, hothers, hall⟩ := Option.bind_eq_some_iff.mp hrest
      cases hall
      simp only [List.flatten_cons, List.mem_append, ih hothers,
        List.exists_mem_cons_iff, hys, Option.some.injEq, exists_eq_left']

end PartialRounds

/-! ## Running maxima and minima -/

section RunningExtremum

variable {α : Type*} [LinearOrder α]

/-- The invariant of the loop: the running maximum is the greatest of what has
been seen. -/
theorem isGreatest_foldl_max (list : List α) (start : α) :
    IsGreatest (insert start {x | x ∈ list}) (list.foldl max start) := by
  induction list generalizing start with
  | nil => simp [isGreatest_singleton]
  | cons head rest ih =>
      obtain ⟨hmem, hupper⟩ := ih (max start head)
      rw [List.foldl_cons]
      constructor
      · rcases hmem with hnow | hlater
        · rcases max_choice start head with hmax | hmax
          · exact Or.inl (hnow.trans hmax)
          · exact Or.inr (List.mem_cons.mpr (Or.inl (hnow.trans hmax)))
        · exact Or.inr (List.mem_cons_of_mem head hlater)
      · rintro x (rfl | hx)
        · exact (le_max_left _ head).trans (hupper (Or.inl rfl))
        · rcases List.mem_cons.mp hx with rfl | hrest
          · exact (le_max_right start _).trans (hupper (Or.inl rfl))
          · exact hupper (Or.inr hrest)

theorem isLeast_foldl_min (list : List α) (start : α) :
    IsLeast (insert start {x | x ∈ list}) (list.foldl min start) :=
  isGreatest_foldl_max (α := αᵒᵈ) list start

/-- The running maximum is attained in the list exactly when the list reaches
the starting value. -/
theorem foldl_max_mem_iff (list : List α) (start : α) :
    list.foldl max start ∈ list ↔ ∃ x ∈ list, start ≤ x := by
  obtain ⟨hmem, hupper⟩ := isGreatest_foldl_max list start
  constructor
  · intro hattained
    exact ⟨_, hattained, hupper (Or.inl rfl)⟩
  · rintro ⟨x, hx, hstart⟩
    rcases hmem with hequal | hattained
    · have hle : x ≤ start := hequal ▸ hupper (Or.inr hx)
      rw [hequal, le_antisymm hstart hle]
      exact hx
    · exact hattained

theorem foldl_min_mem_iff (list : List α) (start : α) :
    list.foldl min start ∈ list ↔ ∃ x ∈ list, x ≤ start :=
  foldl_max_mem_iff (α := αᵒᵈ) list start

end RunningExtremum

/-! ## Views of a range -/

section SubList

variable {α β : Type*}

/-- `list.subList(fromIndex, toIndex)`. -/
def subList (list : List α) (fromIndex toIndex : Nat) : Option (List α) :=
  if fromIndex ≤ toIndex ∧ toIndex ≤ list.length then
    some ((list.take toIndex).drop fromIndex)
  else none

theorem subList_eq_some_iff {list view : List α} {fromIndex toIndex : Nat} :
    subList list fromIndex toIndex = some view ↔
      (fromIndex ≤ toIndex ∧ toIndex ≤ list.length) ∧
        (list.take toIndex).drop fromIndex = view := by
  unfold subList
  split_ifs with hrange
  · simp [hrange]
  · simp [hrange]

theorem subList_of_le {list : List α} {fromIndex toIndex : Nat}
    (hfrom : fromIndex ≤ toIndex) (hto : toIndex ≤ list.length) :
    subList list fromIndex toIndex = some ((list.take toIndex).drop fromIndex) :=
  if_pos ⟨hfrom, hto⟩

/-- Adjacent views join. -/
theorem subList_append {list first second : List α} {i j k : Nat}
    (hfirst : subList list i j = some first)
    (hsecond : subList list j k = some second) :
    subList list i k = some (first ++ second) := by
  obtain ⟨⟨hij, _⟩, rfl⟩ := subList_eq_some_iff.mp hfirst
  obtain ⟨⟨hjk, hk⟩, rfl⟩ := subList_eq_some_iff.mp hsecond
  apply subList_eq_some_iff.mpr
  refine ⟨⟨hij.trans hjk, hk⟩, ?_⟩
  have hsplit : list.take k = list.take j ++ (list.take k).drop j := by
    have htake : (list.take k).take j = list.take j := by
      rw [List.take_take, min_eq_left hjk]
    rw [← htake, List.take_append_drop]
  have hlength : i ≤ (list.take j).length := by
    rw [List.length_take]
    omega
  nth_rewrite 1 [hsplit]
  rw [List.drop_append_of_le_length hlength]

/-- A view of a list changed element by element is the view changed so. -/
theorem subList_map (f : α → β) (list : List α) (fromIndex toIndex : Nat) :
    subList (list.map f) fromIndex toIndex =
      (subList list fromIndex toIndex).map (List.map f) := by
  unfold subList
  rw [List.length_map]
  split_ifs
  · rw [Option.map_some, List.map_drop, List.map_take]
  · rfl

end SubList

end ListLoops
end Library
end ImportDlibDemo
