import Mathlib.Data.List.Basic
import Mathlib.Tactic

/-!
# Arrays with sparse integer keys

A map from integers to values that keeps its entries in increasing key order,
with access by key (`get`) and by position (`keyAt`).  The order is part of the
type, so walking the positions and looking the keys up visits every value once,
in key order (`filterMap_get_keyAt`).
-/

namespace ImportDlibDemo
namespace Library

/-- Entries with strictly increasing keys. -/
structure SparseArray (V : Type*) where
  entries : List (Int × V)
  sorted : entries.Pairwise fun a b => a.1 < b.1

namespace SparseArray

variable {V : Type*}

/-- The array without entries. -/
def empty : SparseArray V where
  entries := []
  sorted := List.Pairwise.nil

/-- The number of entries. -/
def size (array : SparseArray V) : Nat :=
  array.entries.length

/-- The key at a position; `0` where there is none. -/
def keyAt (array : SparseArray V) (i : Nat) : Int :=
  (array.entries[i]?.map Prod.fst).getD 0

/-- The value stored under a key. -/
def get (array : SparseArray V) (key : Int) : Option V :=
  (array.entries.find? fun entry => entry.1 == key).map Prod.snd

/-- The values in key order. -/
def values (array : SparseArray V) : List V :=
  array.entries.map Prod.snd

/-- Put an entry in its place, over an entry with the same key. -/
def insertEntry (key : Int) (value : V) : List (Int × V) → List (Int × V)
  | [] => [(key, value)]
  | entry :: rest =>
      if key < entry.1 then (key, value) :: entry :: rest
      else if key = entry.1 then (key, value) :: rest
      else entry :: insertEntry key value rest

theorem mem_insertEntry {key : Int} {value : V} {entries : List (Int × V)}
    {entry : Int × V} (hmem : entry ∈ insertEntry key value entries) :
    entry = (key, value) ∨ entry ∈ entries := by
  induction entries with
  | nil => exact Or.inl (List.mem_singleton.mp hmem)
  | cons head rest ih =>
      rw [insertEntry] at hmem
      split at hmem
      · exact List.mem_cons.mp hmem
      · split at hmem
        · rcases List.mem_cons.mp hmem with hnew | hrest
          · exact Or.inl hnew
          · exact Or.inr (List.mem_cons_of_mem _ hrest)
        · rcases List.mem_cons.mp hmem with hhead | hlater
          · exact Or.inr (hhead ▸ List.mem_cons_self)
          · rcases ih hlater with hnew | hrest
            · exact Or.inl hnew
            · exact Or.inr (List.mem_cons_of_mem _ hrest)

theorem insertEntry_sorted {entries : List (Int × V)}
    (hsorted : entries.Pairwise fun a b => a.1 < b.1) (key : Int) (value : V) :
    (insertEntry key value entries).Pairwise fun a b => a.1 < b.1 := by
  induction entries with
  | nil => exact List.pairwise_singleton _ _
  | cons head rest ih =>
      obtain ⟨hhead, hrest⟩ := List.pairwise_cons.mp hsorted
      rw [insertEntry]
      split
      · next hless =>
          refine List.pairwise_cons.mpr ⟨?_, hsorted⟩
          intro entry hentry
          rcases List.mem_cons.mp hentry with rfl | hlater
          · exact hless
          · exact hless.trans (hhead entry hlater)
      · split
        · next hequal =>
            subst hequal
            exact List.pairwise_cons.mpr ⟨hhead, hrest⟩
        · next hless hequal =>
            refine List.pairwise_cons.mpr ⟨?_, ih hrest⟩
            intro entry hentry
            rcases mem_insertEntry hentry with rfl | hold
            · show head.1 < key
              omega
            · exact hhead entry hold

/-- Store a value under a key. -/
def put (array : SparseArray V) (key : Int) (value : V) : SparseArray V where
  entries := insertEntry key value array.entries
  sorted := insertEntry_sorted array.sorted key value

/-! ## Walking the positions -/

private theorem find_key_eq {entries : List (Int × V)}
    (hsorted : entries.Pairwise fun a b => a.1 < b.1) {i : Nat}
    {entry : Int × V} (hentry : entries[i]? = some entry) :
    entries.find? (fun other => other.1 == entry.1) = some entry := by
  induction entries generalizing i with
  | nil => simp at hentry
  | cons head rest ih =>
      obtain ⟨hhead, hrest⟩ := List.pairwise_cons.mp hsorted
      cases i with
      | zero =>
          obtain rfl : head = entry := by simpa using hentry
          simp
      | succ i =>
          have hlater : rest[i]? = some entry := by simpa using hentry
          -- A later entry has a greater key, so the head is passed over.
          have hless := hhead entry (List.mem_of_getElem? hlater)
          have hne : (head.1 == entry.1) = false := by
            simpa using hless.ne
          rw [List.find?_cons, hne]
          exact ih hrest hlater

/-- Looking up the key at a position yields the value at that position. -/
theorem get_keyAt {array : SparseArray V} {i : Nat} {entry : Int × V}
    (hentry : array.entries[i]? = some entry) :
    array.get (array.keyAt i) = some entry.2 := by
  have hkey : array.keyAt i = entry.1 := by
    rw [keyAt, hentry]
    rfl
  rw [get, hkey, find_key_eq array.sorted hentry]
  rfl

private theorem filterMap_range_getElem (list : List V) :
    ((List.range list.length).filterMap fun i => list[i]?) = list := by
  induction list with
  | nil => rfl
  | cons head rest ih =>
      rw [List.length_cons, List.range_succ_eq_map, List.filterMap_cons,
        List.filterMap_map]
      simp only [List.getElem?_cons_zero, Function.comp_def,
        List.getElem?_cons_succ, ih]

/-- Walking the positions visits the values in key order. -/
theorem filterMap_get_keyAt (array : SparseArray V) :
    ((List.range array.size).filterMap fun i => array.get (array.keyAt i)) =
      array.values := by
  have hget : ∀ i ∈ List.range array.size,
      array.get (array.keyAt i) = array.values[i]? := by
    intro i hi
    have hlt : i < array.entries.length := List.mem_range.mp hi
    rw [get_keyAt (List.getElem?_eq_getElem hlt)]
    simp [values, List.getElem?_eq_getElem hlt]
  have hsize : array.size = array.values.length := by
    rw [values, List.length_map, size]
  rw [List.filterMap_congr hget, hsize]
  exact filterMap_range_getElem array.values

/-! ## Storing a list under its indices -/

theorem insertEntry_of_all_less {entries : List (Int × V)} {key : Int}
    (hless : ∀ entry ∈ entries, entry.1 < key) (value : V) :
    insertEntry key value entries = entries ++ [(key, value)] := by
  induction entries with
  | nil => rfl
  | cons head rest ih =>
      have hhead : head.1 < key := hless head List.mem_cons_self
      rw [insertEntry, if_neg (by omega), if_neg (by omega),
        ih fun entry hentry => hless entry (List.mem_cons_of_mem _ hentry)]
      rfl

private theorem values_foldl_put_from (list : List V) :
    ∀ (array : SparseArray V) (next : Nat),
      (∀ entry ∈ array.entries, entry.1 < next) →
      ((list.zipIdx next).foldl (fun array (element : V × Nat) =>
        array.put element.2 element.1) array).values = array.values ++ list := by
  induction list with
  | nil =>
      intro array next _
      exact (List.append_nil array.values).symm
  | cons head rest ih =>
      intro array next hless
      have hput := insertEntry_of_all_less hless head
      rw [List.zipIdx_cons, List.foldl_cons, ih]
      · simp [values, put, hput]
      · -- All keys stay below the next index.
        intro entry hentry
        simp only [put, hput, List.mem_append, List.mem_singleton] at hentry
        push_cast
        rcases hentry with hold | rfl
        · exact (hless entry hold).trans (by omega)
        · show (next : Int) < next + 1
          omega

/-- Storing the elements of a list under their indices, from an empty array,
keeps the list. -/
theorem values_foldl_put (list : List V) :
    (list.zipIdx.foldl (fun array (element : V × Nat) =>
      array.put element.2 element.1) empty).values = list := by
  have hfrom := values_foldl_put_from list empty 0 (by simp [empty])
  simpa [values, empty] using hfrom

end SparseArray
end Library
end ImportDlibDemo
