import ImportDlibDemo.Data.DLibFace68
import ImportDlibDemo.Library.BinaryFloat
import ImportDlibDemo.Library.ListLoops

/-!
# The bound of a list of landmarks

`DLibFace68(List<Landmark>)` computes the bound in a loop of `Math.min` and
`Math.max`.  The sides it starts from are `Float.MAX_VALUE` and
`Float.MIN_VALUE`; the first is the greatest finite `float`, the second the least
*positive* one.  So left and top are the sides of the least rectangle around the
landmarks, while right and bottom are only when some landmark is as far right
and as far down as `Float.MIN_VALUE`.
-/

namespace ImportDlibDemo
namespace Data

open Library

/-- `Float.MAX_VALUE` and `Float.MIN_VALUE`. -/
class FloatLimits (K : Type) where
  maxValue : K
  minValue : K

instance : FloatLimits (FiniteFloat binary32) where
  maxValue := FiniteFloat.maxValue binary32
  minValue := FiniteFloat.minValue binary32

namespace RectF

variable {K : Type} [LinearOrder K]

/-- One round of the loop over the landmarks. -/
def extend (bound : RectF K) (landmark : Landmark K) : RectF K where
  left := min bound.left landmark.x
  top := min bound.top landmark.y
  right := max bound.right landmark.x
  bottom := max bound.bottom landmark.y

/-- The rectangle encloses the landmarks, and no side can be moved inwards. -/
structure LeastEnclosing (bound : RectF K) (landmarks : List (Landmark K)) :
    Prop where
  encloses : ∀ landmark ∈ landmarks,
    (bound.left ≤ landmark.x ∧ landmark.x ≤ bound.right) ∧
      bound.top ≤ landmark.y ∧ landmark.y ≤ bound.bottom
  left_attained : ∃ landmark ∈ landmarks, landmark.x = bound.left
  top_attained : ∃ landmark ∈ landmarks, landmark.y = bound.top
  right_attained : ∃ landmark ∈ landmarks, landmark.x = bound.right
  bottom_attained : ∃ landmark ∈ landmarks, landmark.y = bound.bottom

instance : RightCommutative (extend (K := K)) where
  right_comm bound first second := by
    simp only [extend, min_right_comm, max_right_comm]

/-- The loop runs four running extrema side by side. -/
theorem foldl_extend (landmarks : List (Landmark K)) (start : RectF K) :
    landmarks.foldl extend start =
      { left := (landmarks.map Landmark.x).foldl min start.left
        top := (landmarks.map Landmark.y).foldl min start.top
        right := (landmarks.map Landmark.x).foldl max start.right
        bottom := (landmarks.map Landmark.y).foldl max start.bottom } := by
  induction landmarks generalizing start with
  | nil => rfl
  | cons landmark rest ih =>
      rw [List.foldl_cons, ih]
      rfl

/-- Whatever the loop starts from, its result encloses the landmarks. -/
theorem foldl_extend_encloses (landmarks : List (Landmark K)) (start : RectF K) :
    ∀ landmark ∈ landmarks,
      ((landmarks.foldl extend start).left ≤ landmark.x ∧
          landmark.x ≤ (landmarks.foldl extend start).right) ∧
        (landmarks.foldl extend start).top ≤ landmark.y ∧
          landmark.y ≤ (landmarks.foldl extend start).bottom := by
  intro landmark hlandmark
  have hx := List.mem_map_of_mem (f := Landmark.x) hlandmark
  have hy := List.mem_map_of_mem (f := Landmark.y) hlandmark
  rw [foldl_extend]
  exact ⟨⟨(ListLoops.isLeast_foldl_min _ _).2 (Or.inr hx),
      (ListLoops.isGreatest_foldl_max _ _).2 (Or.inr hx)⟩,
    (ListLoops.isLeast_foldl_min _ _).2 (Or.inr hy),
    (ListLoops.isGreatest_foldl_max _ _).2 (Or.inr hy)⟩

/-- A side is attained when some landmark is as far out as the side the loop
starts from. -/
theorem leastEnclosing_foldl_iff (landmarks : List (Landmark K))
    (start : RectF K) :
    (landmarks.foldl extend start).LeastEnclosing landmarks ↔
      ((∃ landmark ∈ landmarks, landmark.x ≤ start.left) ∧
        (∃ landmark ∈ landmarks, landmark.y ≤ start.top)) ∧
      (∃ landmark ∈ landmarks, start.right ≤ landmark.x) ∧
        ∃ landmark ∈ landmarks, start.bottom ≤ landmark.y := by
  have hleft := ListLoops.foldl_min_mem_iff
    (landmarks.map Landmark.x) start.left
  have htop := ListLoops.foldl_min_mem_iff
    (landmarks.map Landmark.y) start.top
  have hright := ListLoops.foldl_max_mem_iff
    (landmarks.map Landmark.x) start.right
  have hbottom := ListLoops.foldl_max_mem_iff
    (landmarks.map Landmark.y) start.bottom
  simp only [List.mem_map, exists_exists_and_eq_and] at hleft htop hright hbottom
  rw [← hleft, ← htop, ← hright, ← hbottom]
  constructor
  · intro hleast
    have hattained := And.intro
      (And.intro hleast.left_attained hleast.top_attained)
      (And.intro hleast.right_attained hleast.bottom_attained)
    rw [foldl_extend] at hattained
    exact hattained
  · rintro ⟨⟨hl, ht⟩, hr, hb⟩
    refine ⟨foldl_extend_encloses landmarks start, ?_, ?_, ?_, ?_⟩
    all_goals rw [foldl_extend]; assumption

end RectF

namespace DLibFace68

variable {K : Type} [LinearOrder K] [FloatLimits K]

/-- `new DLibFace68(landmarks)`. -/
def ofLandmarks (landmarks : List (Landmark K)) : DLibFace68 K where
  mBound := landmarks.foldl RectF.extend
    { left := FloatLimits.maxValue
      top := FloatLimits.maxValue
      right := FloatLimits.minValue
      bottom := FloatLimits.minValue }
  mLandmarks := landmarks

/-- The bound is the least rectangle around the landmarks, in whatever order they
come. -/
structure BoundsTightly (landmarks : List (Landmark K)) : Prop where
  least : (ofLandmarks landmarks).mBound.LeastEnclosing landmarks
  order_irrelevant : ∀ other : List (Landmark K), other.Perm landmarks →
    (ofLandmarks other).mBound = (ofLandmarks landmarks).mBound

/-- The bound does not depend on the order of the landmarks, tight or not. -/
theorem bound_perm {landmarks other : List (Landmark K)}
    (hperm : other.Perm landmarks) :
    (ofLandmarks other).mBound = (ofLandmarks landmarks).mBound :=
  hperm.foldl_eq _

/-- The bound of a list of finite `float` landmarks is tight exactly when some
landmark has a positive `x` and some landmark a positive `y`. -/
theorem boundsTightly_iff (landmarks : List (Landmark (FiniteFloat binary32))) :
    BoundsTightly landmarks ↔
      (∃ landmark ∈ landmarks, 0 < landmark.x.value) ∧
        ∃ landmark ∈ landmarks, 0 < landmark.y.value := by
  have hleast := RectF.leastEnclosing_foldl_iff landmarks
    { left := FiniteFloat.maxValue binary32
      top := FiniteFloat.maxValue binary32
      right := FiniteFloat.minValue binary32
      bottom := FiniteFloat.minValue binary32 }
  simp only [FiniteFloat.minValue_le_iff, FiniteFloat.le_maxValue, and_true]
    at hleast
  constructor
  · intro htight
    exact (hleast.mp htight.least).2
  · rintro ⟨hx, hy⟩
    have hsome : ∃ landmark, landmark ∈ landmarks := by
      obtain ⟨landmark, hmem, _⟩ := hx
      exact ⟨landmark, hmem⟩
    exact ⟨hleast.mpr ⟨⟨hsome, hsome⟩, hx, hy⟩,
      fun other hperm => bound_perm hperm⟩

/-- A landmark to the left of the image and above it. -/
def outsideLandmark : Landmark (FiniteFloat binary32) :=
  let minusOne : FiniteFloat binary32 :=
    .number ((-1 : Int) : ℚ)
      (FloatFormat.representable_intCast (by decide) (by decide) (by decide))
  { x := minusOne, y := minusOne }

/-- The bound of the landmark `(-1, -1)` alone reaches up to
`Float.MIN_VALUE`. -/
theorem outside_landmark_bound_not_tight :
    (ofLandmarks [outsideLandmark]).mBound.right = FiniteFloat.minValue binary32 ∧
      ¬ BoundsTightly [outsideLandmark] := by
  have hnegative : outsideLandmark.x.value < 0 := by
    simp [outsideLandmark, FiniteFloat.value]
  have hbelow : outsideLandmark.x < FiniteFloat.minValue binary32 := by
    apply lt_of_not_ge
    rw [FiniteFloat.minValue_le_iff]
    exact hnegative.not_gt
  have hright : (ofLandmarks [outsideLandmark]).mBound.right =
      FiniteFloat.minValue binary32 := max_eq_left hbelow.le
  constructor
  · exact hright
  · intro htight
    obtain ⟨landmark, hmem, hattained⟩ := htight.least.right_attained
    rw [hright, List.mem_singleton.mp hmem] at hattained
    exact hbelow.ne hattained

end DLibFace68

end Data
end ImportDlibDemo
