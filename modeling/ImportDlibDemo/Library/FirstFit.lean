import Mathlib.Data.List.Infix
import Mathlib.Data.List.Pairwise

/-!
# Keeping what conflicts with nothing kept before

A loop goes through a list and keeps an element unless one that it has kept
already conflicts with it.  What is kept is a sublist without conflicts, and
whatever was dropped conflicts with an earlier element that stayed.
-/

namespace ImportDlibDemo
namespace Library
namespace FirstFit

variable {α : Type*} (conflicts : α → α → Bool)

/-- One round of the loop. -/
def keep (kept : List α) (x : α) : List α :=
  if kept.any fun y => conflicts y x then kept else kept ++ [x]

/-- The elements the loop has kept at its end. -/
def firstFit (list : List α) : List α :=
  list.foldl (keep conflicts) []

variable {conflicts}

theorem firstFit_concat (list : List α) (x : α) :
    firstFit conflicts (list ++ [x]) =
      keep conflicts (firstFit conflicts list) x := by
  rw [firstFit, List.foldl_append]
  rfl

/-- Read backwards, the loop is the filter that keeps pairwise related
elements. -/
theorem reverse_firstFit (list : List α) :
    (firstFit conflicts list).reverse =
      list.reverse.pwFilter fun x y => conflicts y x = false := by
  induction list using List.reverseRecOn with
  | nil => rfl
  | append_singleton list x ih =>
      rw [firstFit_concat, keep, List.reverse_append, List.reverse_singleton,
        List.singleton_append]
      split
      · next hconflict =>
          obtain ⟨y, hy, hyx⟩ := List.any_eq_true.mp hconflict
          rw [List.pwFilter_cons_of_neg, ih]
          intro hall
          rw [← ih] at hall
          have hfree := hall y (List.mem_reverse.mpr hy)
          rw [hyx] at hfree
          cases hfree
      · next hfree =>
          rw [List.pwFilter_cons_of_pos, List.reverse_append, ih]
          · rfl
          · intro y hy
            rw [← ih, List.mem_reverse] at hy
            have hnone := List.any_eq_false.mp (Bool.not_eq_true _ ▸ hfree)
            exact Bool.not_eq_true _ ▸ hnone y hy

theorem firstFit_sublist (list : List α) :
    (firstFit conflicts list).Sublist list := by
  have hsublist := List.pwFilter_sublist
    (R := fun x y => conflicts y x = false) list.reverse
  rw [← reverse_firstFit] at hsublist
  exact List.reverse_sublist.mp hsublist

/-- No element that is kept conflicts with a later one. -/
theorem pairwise_firstFit (list : List α) :
    (firstFit conflicts list).Pairwise fun x y => conflicts x y = false := by
  have hpairwise := List.pairwise_pwFilter
    (R := fun x y => conflicts y x = false) list.reverse
  rw [← reverse_firstFit, List.pairwise_reverse] at hpairwise
  exact hpairwise

/-- More elements at the end change nothing about what is kept before them. -/
theorem firstFit_prefix_append (list more : List α) :
    firstFit conflicts list <+: firstFit conflicts (list ++ more) := by
  induction more using List.reverseRecOn with
  | nil => rw [List.append_nil]
  | append_singleton more x ih =>
      rw [← List.append_assoc, firstFit_concat, keep]
      split
      · exact ih
      · exact ih.trans (List.prefix_append _ _)

/-- In a sorted list, whatever is dropped conflicts with an element that stays
and comes before it in the order. -/
theorem mem_firstFit_or {before : α → α → Prop} {list : List α}
    (hsorted : list.Pairwise before) {x : α} (hx : x ∈ list) :
    x ∈ firstFit conflicts list ∨
      ∃ y ∈ firstFit conflicts list, conflicts y x = true ∧ before y x := by
  induction list using List.reverseRecOn with
  | nil => cases hx
  | append_singleton list z ih =>
      obtain ⟨hlist, _, hlast⟩ := List.pairwise_append.mp hsorted
      have hkept : firstFit conflicts list ⊆ firstFit conflicts (list ++ [z]) :=
        (firstFit_prefix_append list [z]).subset
      rcases List.mem_append.mp hx with hearly | hlate
      · rcases ih hlist hearly with hstays | ⟨y, hy, hyx, hbefore⟩
        · exact Or.inl (hkept hstays)
        · exact Or.inr ⟨y, hkept hy, hyx, hbefore⟩
      · obtain rfl := List.mem_singleton.mp hlate
        by_cases hconflict :
            (firstFit conflicts list).any fun y => conflicts y x
        · obtain ⟨y, hy, hyx⟩ := List.any_eq_true.mp hconflict
          have hin := (firstFit_sublist list).subset hy
          exact Or.inr ⟨y, hkept hy, hyx, hlast y hin x (List.mem_singleton_self x)⟩
        · left
          rw [firstFit_concat, keep, if_neg hconflict]
          exact List.mem_append_right _ (List.mem_singleton_self x)

/-- In a strictly sorted list the loop is the only way to keep elements without
conflicts and to drop only what conflicts with a better one that stays.  The
induction takes the last element off, which nothing before it depends on. -/
theorem eq_firstFit {before : α → α → Prop}
    (hirrefl : ∀ x, ¬ before x x)
    (hasymm : ∀ x y, before x y → ¬ before y x) {list kept : List α}
    (hsorted : list.Pairwise before) (hkept : kept.Sublist list)
    (hfree : kept.Pairwise fun x y => conflicts x y = false)
    (hcovered : ∀ x ∈ list, x ∈ kept ∨
      ∃ y ∈ kept, conflicts y x = true ∧ before y x) :
    kept = firstFit conflicts list := by
  induction list using List.reverseRecOn generalizing kept with
  | nil => exact List.sublist_nil.mp hkept
  | append_singleton list z ih =>
      obtain ⟨hlist, _, hlast⟩ := List.pairwise_append.mp hsorted
      have hz : ∀ x ∈ list, before x z :=
        fun x hx => hlast x hx z (List.mem_singleton_self z)
      have hout : z ∉ list := fun hin => hirrefl z (hz z hin)
      obtain ⟨front, tail, rfl, hfront, htail⟩ := List.sublist_append_iff.mp hkept
      obtain ⟨hfrontFree, _, hacross⟩ := List.pairwise_append.mp hfree
      have hrest : front = firstFit conflicts list := by
        refine ih hlist hfront hfrontFree ?_
        intro x hx
        -- The last element is neither `x` nor before it.
        have hnew : ∀ y ∈ tail, y = z :=
          fun y hy => List.mem_singleton.mp (htail.subset hy)
        rcases hcovered x (List.mem_append_left _ hx) with
          hstays | ⟨y, hy, hyx, hbefore⟩
        · rcases List.mem_append.mp hstays with hin | hin
          · exact Or.inl hin
          · exact absurd (hnew x hin ▸ hx) hout
        · rcases List.mem_append.mp hy with hin | hin
          · exact Or.inr ⟨y, hin, hyx, hbefore⟩
          · exact absurd (hnew y hin ▸ hbefore) (hasymm x z (hz x hx))
      rw [firstFit_concat, keep, ← hrest]
      rcases List.sublist_cons_iff.mp htail with hnone | ⟨others, rfl, hothers⟩
      · -- It was dropped, for one that stays.
        obtain rfl := List.sublist_nil.mp hnone
        rw [List.append_nil] at hcovered ⊢
        rcases hcovered z (List.mem_append_right _ (List.mem_singleton_self z))
          with hstays | ⟨y, hy, hyz, _⟩
        · exact absurd (hfront.subset hstays) hout
        · rw [if_pos (List.any_eq_true.mpr ⟨y, hy, hyz⟩)]
      · obtain rfl := List.sublist_nil.mp hothers
        have hnone : ¬ (front.any fun y => conflicts y z) = true := by
          intro hconflict
          obtain ⟨y, hy, hyz⟩ := List.any_eq_true.mp hconflict
          rw [hacross y hy z (List.mem_singleton_self z)] at hyz
          cases hyz
        rw [if_neg hnone]

end FirstFit
end Library
end ImportDlibDemo
