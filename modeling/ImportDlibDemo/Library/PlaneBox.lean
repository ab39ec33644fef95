import Mathlib.Tactic

/-!
# Boxes in the plane

Axis-parallel boxes as the sets of points they cover, and the three maps that
generate the symmetries of the axes: mirroring either coordinate and exchanging
the two.  A box given by a corner and a size keeps its size under mirroring, and
exchanges its sides with the coordinates.  `region_eq_iff` turns an equation
between covered sets into one between boxes.
-/

namespace ImportDlibDemo
namespace Library
namespace PlaneBox

/-- A point of the plane. -/
@[ext] structure Point (K : Type*) where
  x : K
  y : K
  deriving DecidableEq, Repr

/-- A box given by its sides. -/
@[ext] structure Box (K : Type*) where
  left : K
  top : K
  right : K
  bottom : K
  deriving DecidableEq, Repr

namespace Box

section Order

variable {K : Type*} [LinearOrder K]

/-- The points a box covers. -/
def region (box : Box K) : Set (Point K) :=
  {p | box.left ≤ p.x ∧ p.x ≤ box.right ∧ box.top ≤ p.y ∧ p.y ≤ box.bottom}

/-- A box with its sides exchanged covers nothing. -/
def Inverted (box : Box K) : Prop :=
  box.right < box.left ∨ box.bottom < box.top

theorem mem_region {box : Box K} {p : Point K} :
    p ∈ box.region ↔ box.left ≤ p.x ∧ p.x ≤ box.right ∧
      box.top ≤ p.y ∧ p.y ≤ box.bottom := Iff.rfl

theorem region_eq_empty_iff {box : Box K} :
    box.region = ∅ ↔ box.Inverted := by
  constructor
  · intro hempty
    by_contra hproper
    rw [Inverted, not_or, not_lt, not_lt] at hproper
    have hcorner : (⟨box.left, box.top⟩ : Point K) ∈ box.region :=
      ⟨le_rfl, hproper.1, le_rfl, hproper.2⟩
    rw [hempty] at hcorner
    exact hcorner
  · intro hinverted
    ext p
    rw [mem_region, Set.mem_empty_iff_false, iff_false]
    rintro ⟨hleft, hright, htop, hbottom⟩
    rcases hinverted with hx | hy
    · exact absurd (hleft.trans hright) (not_le.mpr hx)
    · exact absurd (htop.trans hbottom) (not_le.mpr hy)

/-- A proper box inside another box lies between its sides. -/
theorem sides_of_region_subset {box other : Box K}
    (hproper : ¬ box.Inverted) (hsubset : box.region ⊆ other.region) :
    other.left ≤ box.left ∧ other.top ≤ box.top ∧
      box.right ≤ other.right ∧ box.bottom ≤ other.bottom := by
  rw [Inverted, not_or, not_lt, not_lt] at hproper
  have hfirst : (⟨box.left, box.top⟩ : Point K) ∈ other.region :=
    hsubset ⟨le_rfl, hproper.1, le_rfl, hproper.2⟩
  have hlast : (⟨box.right, box.bottom⟩ : Point K) ∈ other.region :=
    hsubset ⟨hproper.1, le_rfl, hproper.2, le_rfl⟩
  exact ⟨hfirst.1, hfirst.2.2.1, hlast.2.1, hlast.2.2.2⟩

/-- Boxes cover the same points exactly when they are equal or both cover
nothing. -/
theorem region_eq_iff {box other : Box K} :
    box.region = other.region ↔
      (box.Inverted ∧ other.Inverted) ∨ box = other := by
  constructor
  · intro hregion
    by_cases hinverted : box.Inverted
    · left
      refine ⟨hinverted, ?_⟩
      rw [← region_eq_empty_iff] at hinverted ⊢
      rw [← hregion, hinverted]
    · right
      have hother : ¬ other.Inverted := by
        rw [← region_eq_empty_iff] at hinverted ⊢
        rwa [← hregion]
      have hin := sides_of_region_subset hinverted hregion.subset
      have hout := sides_of_region_subset hother hregion.symm.subset
      ext1
      · exact le_antisymm hout.1 hin.1
      · exact le_antisymm hout.2.1 hin.2.1
      · exact le_antisymm hin.2.2.1 hout.2.2.1
      · exact le_antisymm hin.2.2.2 hout.2.2.2
  · rintro (⟨hbox, hother⟩ | rfl)
    · rw [region_eq_empty_iff.mpr hbox, region_eq_empty_iff.mpr hother]
    · rfl

/-- Exchange the coordinates. -/
def transpose (box : Box K) : Box K where
  left := box.top
  top := box.left
  right := box.bottom
  bottom := box.right

theorem mem_region_transpose {box : Box K} {x y : K} :
    (⟨x, y⟩ : Point K) ∈ box.transpose.region ↔
      (⟨y, x⟩ : Point K) ∈ box.region := by
  simp only [mem_region, transpose]
  tauto

end Order

section Mirror

variable {K : Type*} [Field K] [LinearOrder K] [IsStrictOrderedRing K]

/-- Mirror the first coordinate in a strip of the given width. -/
def mirrorX (box : Box K) (width : K) : Box K where
  left := width - box.right
  top := box.top
  right := width - box.left
  bottom := box.bottom

/-- Mirror the second coordinate in a strip of the given height. -/
def mirrorY (box : Box K) (height : K) : Box K where
  left := box.left
  top := height - box.bottom
  right := box.right
  bottom := height - box.top

theorem mem_region_mirrorX {box : Box K} {width x y : K} :
    (⟨x, y⟩ : Point K) ∈ (box.mirrorX width).region ↔
      (⟨width - x, y⟩ : Point K) ∈ box.region := by
  simp only [mem_region, mirrorX]
  rw [sub_le_comm, le_sub_comm]
  tauto

theorem mem_region_mirrorY {box : Box K} {height x y : K} :
    (⟨x, y⟩ : Point K) ∈ (box.mirrorY height).region ↔
      (⟨x, height - y⟩ : Point K) ∈ box.region := by
  simp only [mem_region, mirrorY]
  rw [sub_le_comm, le_sub_comm]
  tauto

end Mirror

/-! ### Boxes given by a corner and a size -/

section Size

variable {K : Type*} [Field K]

/-- The box of the given size whose first corner is `(x, y)`. -/
def ofSize (x y w h : K) : Box K where
  left := x
  top := y
  right := x + w
  bottom := y + h

theorem ofSize_inj {x y w h x' y' w' h' : K} :
    ofSize x y w h = ofSize x' y' w' h' ↔
      x = x' ∧ y = y' ∧ w = w' ∧ h = h' := by
  constructor
  · intro heq
    obtain ⟨rfl, rfl, hright, hbottom⟩ := Box.mk.inj heq
    exact ⟨rfl, rfl, add_left_cancel hright, add_left_cancel hbottom⟩
  · rintro ⟨rfl, rfl, rfl, rfl⟩
    rfl

theorem transpose_ofSize (x y w h : K) :
    (ofSize x y w h).transpose = ofSize y x h w := rfl

theorem mirrorX_ofSize (x y w h width : K) :
    (ofSize x y w h).mirrorX width = ofSize (width - x - w) y w h := by
  ext
  · show width - (x + w) = width - x - w
    rw [sub_add_eq_sub_sub]
  · rfl
  · show width - x = width - x - w + w
    rw [sub_add_cancel]
  · rfl

theorem mirrorY_ofSize (x y w h height : K) :
    (ofSize x y w h).mirrorY height = ofSize x (height - y - h) w h := by
  ext
  · rfl
  · show height - (y + h) = height - y - h
    rw [sub_add_eq_sub_sub]
  · rfl
  · show height - y = height - y - h + h
    rw [sub_add_cancel]

end Size

end Box

end PlaneBox
end Library
end ImportDlibDemo
