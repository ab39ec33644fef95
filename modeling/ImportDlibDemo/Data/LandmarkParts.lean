import ImportDlibDemo.Data.DLibFace68
import ImportDlibDemo.Library.ListLoops

/-!
# The parts of a face

The eight part getters of `DLibFace68` are views of one list.  The limits of a
part are inclusive and each part starts where the one before it ended, except
that the nose starts at 28 and the right eyebrow ends at 26.  So landmark 27, the
top of the nose, is in no part, on every face.
-/

namespace ImportDlibDemo
namespace Data
namespace DLibFace68

open Library
open Library.ListLoops

variable {K : Type}

def chinStart : Nat := 0
def chinEnd : Nat := 16

def eyebrowLStart : Nat := 17
def eyebrowLEnd : Nat := 21
def eyebrowRStart : Nat := 22
def eyebrowREnd : Nat := 26

def noseStart : Nat := 28
def noseEnd : Nat := 35

def eyeLStart : Nat := 36
def eyeLEnd : Nat := 41
def eyeRStart : Nat := 42
def eyeREnd : Nat := 47

def lipsOuterStart : Nat := 48
def lipsOuterEnd : Nat := 59
def lipsInnerStart : Nat := 60
def lipsInnerEnd : Nat := 67

/-- The landmarks from `start` up to and including `last`. -/
def part (start last : Nat) (face : DLibFace68 K) : Option (List (Landmark K)) :=
  subList face.mLandmarks start (last + 1)

def getAllLandmarks (face : DLibFace68 K) : List (Landmark K) :=
  face.mLandmarks

def getLeftEyebrowLandmarks : DLibFace68 K → Option (List (Landmark K)) :=
  part eyebrowLStart eyebrowLEnd

def getRightEyebrowLandmarks : DLibFace68 K → Option (List (Landmark K)) :=
  part eyebrowRStart eyebrowREnd

def getLeftEyeLandmarks : DLibFace68 K → Option (List (Landmark K)) :=
  part eyeLStart eyeLEnd

def getRightEyeLandmarks : DLibFace68 K → Option (List (Landmark K)) :=
  part eyeRStart eyeREnd

def getNoseLandmarks : DLibFace68 K → Option (List (Landmark K)) :=
  part noseStart noseEnd

def getInnerLipsLandmarks : DLibFace68 K → Option (List (Landmark K)) :=
  part lipsInnerStart lipsInnerEnd

def getOuterLipsLandmarks : DLibFace68 K → Option (List (Landmark K)) :=
  part lipsOuterStart lipsOuterEnd

def getChinLandmarks : DLibFace68 K → Option (List (Landmark K)) :=
  part chinStart chinEnd

/-- The part getters, in the order of the limits. -/
def parts : List (DLibFace68 K → Option (List (Landmark K))) :=
  [getChinLandmarks, getLeftEyebrowLandmarks, getRightEyebrowLandmarks,
    getNoseLandmarks, getLeftEyeLandmarks, getRightEyeLandmarks,
    getOuterLipsLandmarks, getInnerLipsLandmarks]

/-- The parts one after the other; `none` if a getter throws. -/
def concatenation (face : DLibFace68 K) : Option (List (Landmark K)) :=
  let views := parts.mapM
    fun getPart : DLibFace68 K → Option (List (Landmark K)) => getPart face
  views.map List.flatten

/-- The parts lose and duplicate no landmark, and scaling a face scales its
parts. -/
structure PartViewsFaithful [Mul K] (face : DLibFace68 K) : Prop where
  tiles : face.concatenation = some face.getAllLandmarks
  scales : ∀ scaleX scaleY : K, ∀ getPart ∈ parts (K := K),
    getPart (face.scaled scaleX scaleY) =
      (getPart face).map
        (List.map fun landmark =>
          { x := landmark.x * scaleX, y := landmark.y * scaleY })

theorem part_scaled [Mul K] (start last : Nat) (face : DLibFace68 K)
    (scaleX scaleY : K) :
    part start last (face.scaled scaleX scaleY) =
      (part start last face).map
        (List.map fun landmark =>
          { x := landmark.x * scaleX, y := landmark.y * scaleY }) :=
  subList_map _ _ _ _

/-- Scaling does commute with the views, so the tiling decides. -/
theorem partViewsFaithful_iff [Mul K] {face : DLibFace68 K} :
    face.PartViewsFaithful ↔ face.concatenation = some face.getAllLandmarks := by
  constructor
  · exact PartViewsFaithful.tiles
  · intro htiles
    refine ⟨htiles, ?_⟩
    intro scaleX scaleY getPart hgetPart
    simp only [parts, List.mem_cons, List.not_mem_nil, or_false] at hgetPart
    rcases hgetPart with rfl | rfl | rfl | rfl | rfl | rfl | rfl | rfl
    all_goals exact part_scaled _ _ face scaleX scaleY

/-- What joins and what does not: the parts before the nose are the landmarks up
to 26, the nose and the parts after it are those from 28 on. -/
theorem concatenation_eq {face : DLibFace68 K}
    (hlength : face.mLandmarks.length = 68) :
    face.concatenation = some (face.mLandmarks.eraseIdx 27) := by
  have view : ∀ start last : Nat, start ≤ last + 1 → last + 1 ≤ 68 →
      ∃ landmarks, part start last face = some landmarks := by
    intro start last hstart hlast
    exact ⟨_, subList_of_le hstart (hlast.trans hlength.ge)⟩
  obtain ⟨chin, hchin⟩ := view chinStart chinEnd (by decide) (by decide)
  obtain ⟨eyebrowL, heyebrowL⟩ :=
    view eyebrowLStart eyebrowLEnd (by decide) (by decide)
  obtain ⟨eyebrowR, heyebrowR⟩ :=
    view eyebrowRStart eyebrowREnd (by decide) (by decide)
  obtain ⟨nose, hnose⟩ := view noseStart noseEnd (by decide) (by decide)
  obtain ⟨eyeL, heyeL⟩ := view eyeLStart eyeLEnd (by decide) (by decide)
  obtain ⟨eyeR, heyeR⟩ := view eyeRStart eyeREnd (by decide) (by decide)
  obtain ⟨lipsOuter, hlipsOuter⟩ :=
    view lipsOuterStart lipsOuterEnd (by decide) (by decide)
  obtain ⟨lipsInner, hlipsInner⟩ :=
    view lipsInnerStart lipsInnerEnd (by decide) (by decide)
  have hjoined : face.concatenation =
      some [chin, eyebrowL, eyebrowR, nose, eyeL, eyeR, lipsOuter,
        lipsInner].flatten := by
    simp [concatenation, parts, getChinLandmarks, getLeftEyebrowLandmarks,
      getRightEyebrowLandmarks, getNoseLandmarks, getLeftEyeLandmarks,
      getRightEyeLandmarks, getOuterLipsLandmarks, getInnerLipsLandmarks, hchin,
      heyebrowL, heyebrowR, hnose, heyeL, heyeR, hlipsOuter, hlipsInner]
  have hbefore := subList_append (subList_append hchin heyebrowL) heyebrowR
  have hafter := subList_append (subList_append (subList_append
    (subList_append hnose heyeL) heyeR) hlipsOuter) hlipsInner
  obtain ⟨_, hbefore⟩ := subList_eq_some_iff.mp hbefore
  obtain ⟨_, hafter⟩ := subList_eq_some_iff.mp hafter
  have htake : face.mLandmarks.take 27 = chin ++ eyebrowL ++ eyebrowR := hbefore
  have hdrop : face.mLandmarks.drop 28 =
      nose ++ eyeL ++ eyeR ++ lipsOuter ++ lipsInner := by
    rw [← hafter]
    show _ = (face.mLandmarks.take 68).drop 28
    rw [← hlength, List.take_length]
  rw [hjoined, List.eraseIdx_eq_take_drop_succ, htake, hdrop]
  simp

/-- On no face with 68 landmarks do the parts make up all landmarks: one is
missing. -/
theorem not_partViewsFaithful [Mul K] {face : DLibFace68 K}
    (hlength : face.mLandmarks.length = 68) : ¬ face.PartViewsFaithful := by
  rw [partViewsFaithful_iff, concatenation_eq hlength, Option.some_inj]
  intro htiles
  have hshort := List.length_eraseIdx_of_lt (l := face.mLandmarks) (i := 27)
    (by omega)
  rw [htiles, getAllLandmarks, hlength] at hshort
  omega

/-- A face whose landmarks are told apart by their number. -/
def numberedFace : DLibFace68 Int where
  mBound := { left := 0, top := 0, right := 67, bottom := 67 }
  mLandmarks := (List.range 68).map fun i => { x := i, y := i }

theorem numberedFace_not_partViewsFaithful : ¬ numberedFace.PartViewsFaithful :=
  not_partViewsFaithful rfl

/-- Landmark 27 is in none of the parts. -/
theorem landmark27_in_no_part :
    numberedFace.mLandmarks[27]? = some { x := 27, y := 27 } ∧
      (∀ getPart ∈ parts, ∃ landmarks, getPart numberedFace = some landmarks ∧
        { x := 27, y := 27 } ∉ landmarks) ∧
      ¬ numberedFace.PartViewsFaithful := by
  refine ⟨rfl, ?_, ?_⟩
  · simp only [parts, List.forall_mem_cons, List.not_mem_nil, IsEmpty.forall_iff,
      implies_true, and_true]
    refine ⟨⟨_, rfl, ?_⟩, ⟨_, rfl, ?_⟩, ⟨_, rfl, ?_⟩, ⟨_, rfl, ?_⟩, ⟨_, rfl, ?_⟩,
      ⟨_, rfl, ?_⟩, ⟨_, rfl, ?_⟩, ⟨_, rfl, ?_⟩⟩
    all_goals decide
  · intro hfaithful
    have htiles := hfaithful.tiles
    revert htiles
    decide

end DLibFace68

end Data
end ImportDlibDemo
