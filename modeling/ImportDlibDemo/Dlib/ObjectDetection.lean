import ImportDlibDemo.Dlib.Array2d
import ImportDlibDemo.Dlib.FhogGeometry
import ImportDlibDemo.Library.FirstFit
import ImportDlibDemo.Library.FloatOrder
import ImportDlibDemo.Library.ListLoops
import Mathlib.Data.List.Sort

/-!
# How `dlib::object_detector` finds boxes

The scanner slides a window over every level of an image pyramid and reports
the places where a filter scores at least its threshold, best first.  The
detector joins the reports of all its filters and suppresses every box that
overlaps a better one.

The scores of the filters and the geometry of the pyramid are the argument
`FhogScanner`.  `std::sort` may leave equals in any order, and needs keys that can
be compared: every function that sorts those will do.  A filter without a
threshold is a read behind the end of its weights, so the behaviour is undefined.
-/

namespace ImportDlibDemo
namespace Dlib

open Library
open Library.FirstFit
open Library.ListLoops

/-- `std::sort` from the back, for keys that are no NaNs: the same elements with
the greatest keys first, equals in an order that is left open. -/
structure DescendingSort where
  sort : {α : Type} → (α → CppDouble) → List α → List α
  perm : ∀ {α : Type} (key : α → CppDouble) (list : List α),
    (∀ x ∈ list, key x ≠ .nan) → (sort key list).Perm list
  sorted : ∀ {α : Type} (key : α → CppDouble) (list : List α),
    (∀ x ∈ list, key x ≠ .nan) →
      (sort key list).Pairwise fun x y => key y ≤ key x

/-- The sort that keeps equals in their order. -/
def DescendingSort.stable : DescendingSort where
  sort key list :=
    list.insertionSort fun x y => (key y).extended ≤ (key x).extended
  perm key list _ := List.perm_insertionSort _ list
  sorted {α} key list hnumbers := by
    have htotal : Std.Total fun x y : α => (key y).extended ≤ (key x).extended :=
      ⟨fun x y => le_total (key y).extended (key x).extended⟩
    have htrans : IsTrans α fun x y => (key y).extended ≤ (key x).extended :=
      ⟨fun x y z hxy hyz => hyz.trans hxy⟩
    have hperm := List.perm_insertionSort
      (fun x y => (key y).extended ≤ (key x).extended) list
    refine (List.pairwise_insertionSort _ list).imp_of_mem ?_
    intro x y hx hy hle
    exact ⟨hnumbers y (hperm.subset hy), hnumbers x (hperm.subset hx), hle⟩

/-- `dlib::rect_detection`. -/
structure RectDetection where
  detectionConfidence : CppDouble
  weightIndex : Nat
  rect : Rectangle
  deriving DecidableEq, Repr

/-- One level of the pyramid: where the filter fits, its score at each row and
column, and the box in the image a place stands for. -/
structure PyramidLevel where
  area : Rectangle
  saliency : Int → Int → CppDouble
  toImage : Point → Rectangle

/-- What the scanner of a detector computes: the levels the filter of some weights
sees of an image. -/
structure FhogScanner where
  levels : ScanFhogPyramid → List CppDouble → Array2d RgbPixel →
    List PyramidLevel

/-- `for (i = first; i <= last; ++i)`. -/
def longsFromTo (first last : Int) : List Int :=
  (List.range (last - first + 1).toNat).map fun i : Nat => first + i

/-- The places of one level that score at least the threshold, row by row. -/
def scanLevel (thresh : CppDouble) (level : PyramidLevel) :
    List (CppDouble × Rectangle) :=
  (longsFromTo level.area.top level.area.bottom).flatMap fun r =>
    (longsFromTo level.area.left level.area.right).filterMap fun c =>
      if thresh ≤ level.saliency r c then
        some (level.saliency r c, level.toImage ⟨c, r⟩)
      else none

/-- `impl::detect_from_fhog_pyramid`. -/
def detectFromFhogPyramid (std : DescendingSort) (levels : List PyramidLevel)
    (thresh : CppDouble) : List (CppDouble × Rectangle) :=
  std.sort Prod.fst (levels.flatMap (scanLevel thresh))

/-- `test_box_overlap::operator()`. -/
def TestBoxOverlap.test (overlap : TestBoxOverlap) (a b : Rectangle) : Bool :=
  let inner : CppDouble := .ofInt (a.intersect b).area
  if inner.isZero then false
  else
    let outer : CppDouble := .ofInt (a.add b).area
    (inner.div outer).gt overlap.iouThresh ||
      (inner.div (.ofInt a.area)).gt overlap.percentCoveredThresh ||
      (inner.div (.ofInt b.area)).gt overlap.percentCoveredThresh

namespace ObjectDetector

/-- The threshold of a filter stands behind the weights of its windows. -/
def threshold (detector : ObjectDetector) (weights : List CppDouble) :
    Option CppDouble := do
  let dims ← detector.scanner.numDimensions
  weights[dims]?

/-- The `adjust_threshold` of all callers. -/
def adjustThreshold : CppDouble := .zero false

/-- What one filter reports, by decreasing score. -/
def filterDets (std : DescendingSort) (scanner : FhogScanner)
    (detector : ObjectDetector) (img : Array2d RgbPixel)
    (filter : List CppDouble × Nat) : Option (List RectDetection) := do
  let (weights, i) := filter
  let thresh ← detector.threshold weights
  let dets := detectFromFhogPyramid std
    (scanner.levels detector.scanner weights img) (thresh.add adjustThreshold)
  return dets.map fun det =>
    { detectionConfidence := det.1.sub thresh
      weightIndex := i
      rect := det.2 }

/-- What the filters report, filter by filter. -/
def detsAccum (std : DescendingSort) (scanner : FhogScanner)
    (detector : ObjectDetector) (img : Array2d RgbPixel) :
    Option (List RectDetection) :=
  (detector.w.zipIdx.mapM (detector.filterDets std scanner img)).map
    List.flatten

/-- The order in which the reports are looked at. -/
def ordered (std : DescendingSort) (detector : ObjectDetector)
    (detsAccum : List RectDetection) : List RectDetection :=
  if detector.w.length > 1 then
    std.sort RectDetection.detectionConfidence detsAccum
  else detsAccum

/-- `operator()`. -/
def finalDets (std : DescendingSort) (scanner : FhogScanner)
    (detector : ObjectDetector) (img : Array2d RgbPixel) :
    Option (List RectDetection) :=
  (detector.detsAccum std scanner img).map fun detsAccum =>
    firstFit (fun kept det => detector.boxesOverlap.test kept.rect det.rect)
      (detector.ordered std detsAccum)

end ObjectDetector

/-! ## The overlap test -/

/-- Boxes that the test looks at have a common point. -/
theorem area_ne_zero_of_isZero {n : Nat}
    (hn : ¬ (BinaryFloat.ofInt n : CppDouble).isZero = true) : n ≠ 0 := by
  rintro rfl
  apply hn
  obtain ⟨u, hu, hvalue⟩ := BinaryFloat.zero_eq binary64 false
  show (BinaryFloat.zero false : CppDouble).isZero = true
  rw [hu]
  exact decide_eq_true hvalue

/-- The test does not depend on the order of the boxes. -/
theorem TestBoxOverlap.test_comm (overlap : TestBoxOverlap)
    (a b : Rectangle) : overlap.test a b = overlap.test b a := by
  unfold TestBoxOverlap.test
  simp only
  rw [Rectangle.intersect_comm b a]
  split
  · rfl
  · next hinner =>
      -- They have a common point, so neither is empty.
      obtain ⟨ha, hb⟩ := Rectangle.contains_intersect.mp
        (Rectangle.contains_corner (area_ne_zero_of_isZero hinner))
      rw [Rectangle.add_comm_of_nonempty
        (Rectangle.not_isEmpty_of_contains ha)
        (Rectangle.not_isEmpty_of_contains hb)]
      rw [Bool.or_assoc, Bool.or_assoc]
      congr 1
      exact Bool.or_comm _ _

/-- Boxes that overlap have a pixel in common. -/
theorem TestBoxOverlap.exists_common_of_test {overlap : TestBoxOverlap}
    {a b : Rectangle} (htest : overlap.test a b = true) :
    ∃ p, a.contains p = true ∧ b.contains p = true := by
  unfold TestBoxOverlap.test at htest
  simp only at htest
  split at htest
  · cases htest
  · next hinner =>
      exact ⟨_, Rectangle.contains_intersect.mp
        (Rectangle.contains_corner (area_ne_zero_of_isZero hinner))⟩

/-! ## What is reported -/

section Report

variable {std : DescendingSort} {scanner : FhogScanner}
  {detector : ObjectDetector} {img : Array2d RgbPixel}

/-- Every filter has a threshold, and it is a number. -/
def ObjectDetector.HasThresholds (detector : ObjectDetector) : Prop :=
  ∀ weights ∈ detector.w, ∃ thresh,
    detector.threshold weights = some thresh ∧ thresh.isFinite = true

/-- A filter of the detector scores at least its threshold at a place of the
pyramid, and this is the detection the place stands for. -/
def ObjectDetector.Fires (scanner : FhogScanner) (detector : ObjectDetector)
    (img : Array2d RgbPixel) (det : RectDetection) : Prop :=
  ∃ weights thresh, detector.w[det.weightIndex]? = some weights ∧
    detector.threshold weights = some thresh ∧
    ∃ level ∈ scanner.levels detector.scanner weights img, ∃ r c : Int,
      level.area.contains ⟨c, r⟩ = true ∧
      thresh ≤ level.saliency r c ∧
      det.detectionConfidence = (level.saliency r c).sub thresh ∧
      det.rect = level.toImage ⟨c, r⟩

/-- What a report owes: only places that fire are reported, in the order of
confidence, no two of them overlap, and a place that fires is left out only for
a box that is no less certain and shares a pixel with it. -/
structure ObjectDetector.Reports (scanner : FhogScanner)
    (detector : ObjectDetector) (img : Array2d RgbPixel)
    (dets : List RectDetection) : Prop where
  fires : ∀ det ∈ dets, detector.Fires scanner img det
  descending : dets.Pairwise fun a b =>
    b.detectionConfidence ≤ a.detectionConfidence
  apart : dets.Pairwise fun a b =>
    detector.boxesOverlap.test a.rect b.rect = false ∧
      detector.boxesOverlap.test b.rect a.rect = false
  covered : ∀ det, detector.Fires scanner img det → det ∈ dets ∨
    ∃ better ∈ dets, det.detectionConfidence ≤ better.detectionConfidence ∧
      detector.boxesOverlap.test better.rect det.rect = true ∧
      ∃ p, better.rect.contains p = true ∧ det.rect.contains p = true

theorem mem_longsFromTo {first last i : Int} :
    i ∈ longsFromTo first last ↔ first ≤ i ∧ i ≤ last := by
  unfold longsFromTo
  rw [List.mem_map]
  constructor
  · rintro ⟨k, hk, rfl⟩
    rw [List.mem_range] at hk
    omega
  · rintro ⟨hfirst, hlast⟩
    refine ⟨(i - first).toNat, ?_, by omega⟩
    rw [List.mem_range]
    omega

theorem mem_scanLevel {thresh : CppDouble} {level : PyramidLevel}
    {det : CppDouble × Rectangle} :
    det ∈ scanLevel thresh level ↔
      ∃ r c : Int, level.area.contains ⟨c, r⟩ = true ∧
        thresh ≤ level.saliency r c ∧
        det = (level.saliency r c, level.toImage ⟨c, r⟩) := by
  unfold scanLevel
  simp only [List.mem_flatMap, List.mem_filterMap, mem_longsFromTo,
    Rectangle.contains_iff, Option.ite_none_right_eq_some, Option.some.injEq]
  constructor
  · rintro ⟨r, hr, c, hc, hthresh, rfl⟩
    exact ⟨r, c, ⟨hc.1, hc.2, hr.1, hr.2⟩, hthresh, rfl⟩
  · rintro ⟨r, c, ⟨hleft, hright, htop, hbottom⟩, hthresh, rfl⟩
    exact ⟨r, ⟨htop, hbottom⟩, c, ⟨hleft, hright⟩, hthresh, rfl⟩

/-- What reaches a threshold is no NaN. -/
theorem ne_nan_of_mem_scanLevel {levels : List PyramidLevel} {thresh : CppDouble} :
    ∀ det ∈ levels.flatMap (scanLevel thresh), det.1 ≠ .nan := by
  intro det hdet
  obtain ⟨level, _, hplace⟩ := List.mem_flatMap.mp hdet
  obtain ⟨r, c, _, hthresh, rfl⟩ := mem_scanLevel.mp hplace
  exact hthresh.2.1

theorem mem_detectFromFhogPyramid {levels : List PyramidLevel}
    {thresh : CppDouble} {det : CppDouble × Rectangle} :
    det ∈ detectFromFhogPyramid std levels thresh ↔
      ∃ level ∈ levels, det ∈ scanLevel thresh level := by
  unfold detectFromFhogPyramid
  rw [(std.perm _ _ ne_nan_of_mem_scanLevel).mem_iff, List.mem_flatMap]

/-- The threshold as the scanner gets it lets the same scores pass. -/
theorem add_adjustThreshold_le_iff {thresh score : CppDouble} :
    thresh.add ObjectDetector.adjustThreshold ≤ score ↔ thresh ≤ score := by
  obtain ⟨hnan, hextended⟩ := BinaryFloat.extended_add_zero thresh
  rw [BinaryFloat.le_iff, BinaryFloat.le_iff, ObjectDetector.adjustThreshold,
    hextended, ne_eq, hnan]

namespace ObjectDetector

theorem mem_filterDets {weights : List CppDouble} {i : Nat} {thresh : CppDouble}
    {dets : List RectDetection}
    (hthresh : detector.threshold weights = some thresh)
    (hdets : detector.filterDets std scanner img (weights, i) = some dets)
    {det : RectDetection} :
    det ∈ dets ↔ det.weightIndex = i ∧
      ∃ level ∈ scanner.levels detector.scanner weights img, ∃ r c : Int,
        level.area.contains ⟨c, r⟩ = true ∧
        thresh ≤ level.saliency r c ∧
        det.detectionConfidence = (level.saliency r c).sub thresh ∧
        det.rect = level.toImage ⟨c, r⟩ := by
  rw [filterDets, hthresh] at hdets
  cases hdets
  simp only [List.mem_map, mem_detectFromFhogPyramid, mem_scanLevel,
    add_adjustThreshold_le_iff]
  constructor
  · rintro ⟨scored, ⟨level, hlevel, r, c, harea, hscore, rfl⟩, rfl⟩
    exact ⟨rfl, level, hlevel, r, c, harea, hscore, rfl, rfl⟩
  · rintro ⟨hindex, level, hlevel, r, c, harea, hscore, hconfidence, hrect⟩
    refine ⟨_, ⟨level, hlevel, r, c, harea, hscore, rfl⟩, ?_⟩
    obtain ⟨confidence, index, rect⟩ := det
    simp only at hindex hconfidence hrect
    rw [hindex, hconfidence, hrect]

variable (std scanner img) in
/-- With a threshold for each filter the reports are defined. -/
theorem exists_detsAccum (hthresholds : detector.HasThresholds) :
    ∃ accum, detector.detsAccum std scanner img = some accum := by
  have hone : ∀ filter ∈ detector.w.zipIdx,
      ∃ dets, detector.filterDets std scanner img filter = some dets ∧ True := by
    rintro ⟨weights, i⟩ hfilter
    have hweights : weights ∈ detector.w := List.fst_mem_of_mem_zipIdx hfilter
    obtain ⟨thresh, hthresh, _⟩ := hthresholds weights hweights
    exact ⟨_, by rw [filterDets, hthresh]; rfl, trivial⟩
  obtain ⟨results, hresults, _⟩ := exists_mapM_eq_some hone
  exact ⟨results.flatten, by rw [detsAccum, hresults]; rfl⟩

/-- The filters report the places that fire. -/
theorem mem_detsAccum {accum : List RectDetection}
    (haccum : detector.detsAccum std scanner img = some accum)
    {det : RectDetection} : det ∈ accum ↔ detector.Fires scanner img det := by
  obtain ⟨results, hresults, rfl⟩ := Option.map_eq_some_iff.mp haccum
  rw [mem_flatten_of_mapM hresults]
  constructor
  · rintro ⟨⟨weights, i⟩, hfilter, dets, hdets, hdet⟩
    obtain ⟨thresh, hthresh, _⟩ := Option.bind_eq_some_iff.mp hdets
    obtain ⟨rfl, hplace⟩ := (mem_filterDets hthresh hdets).mp hdet
    exact ⟨weights, thresh, List.mem_zipIdx_iff_getElem?.mp hfilter, hthresh,
      hplace⟩
  · rintro ⟨weights, thresh, hweights, hthresh, hplace⟩
    obtain ⟨dets, hdets⟩ : ∃ dets, detector.filterDets std scanner img
        (weights, det.weightIndex) = some dets := by
      rw [filterDets, hthresh]
      exact ⟨_, rfl⟩
    exact ⟨(weights, det.weightIndex), List.mem_zipIdx_iff_getElem?.mpr hweights,
      _, hdets, (mem_filterDets hthresh hdets).mpr ⟨rfl, hplace⟩⟩

/-- No confidence is a NaN. -/
theorem ne_nan_of_fires (hthresholds : detector.HasThresholds)
    {det : RectDetection} (hfires : detector.Fires scanner img det) :
    det.detectionConfidence ≠ .nan := by
  obtain ⟨weights, thresh, hweights, hthresh, _, _, r, c, _, hscore, hconfidence,
    _⟩ := hfires
  obtain ⟨other, hother, hfinite⟩ := hthresholds weights
    (List.mem_of_getElem? hweights)
  cases hother.symm.trans hthresh
  rw [hconfidence]
  exact (BinaryFloat.sub_le_sub_right hfinite
    (BinaryFloat.le_self hscore.2.1)).1

/-- Sorting loses no candidate and makes none up. -/
theorem perm_ordered (hthresholds : detector.HasThresholds)
    {accum : List RectDetection}
    (haccum : detector.detsAccum std scanner img = some accum) :
    (detector.ordered std accum).Perm accum := by
  unfold ordered
  split
  · exact std.perm _ _ fun det hdet =>
      ne_nan_of_fires hthresholds ((mem_detsAccum haccum).mp hdet)
  · exact List.Perm.refl _

/-- A filter reports by decreasing confidence. -/
theorem pairwise_filterDets (hthresholds : detector.HasThresholds)
    {weights : List CppDouble} (hweights : weights ∈ detector.w) {i : Nat}
    {dets : List RectDetection}
    (hdets : detector.filterDets std scanner img (weights, i) = some dets) :
    dets.Pairwise fun a b => b.detectionConfidence ≤ a.detectionConfidence := by
  obtain ⟨thresh, hthresh, hfinite⟩ := hthresholds weights hweights
  rw [filterDets, hthresh] at hdets
  cases hdets
  rw [List.pairwise_map]
  exact (std.sorted Prod.fst _ ne_nan_of_mem_scanLevel).imp
    fun hscore => BinaryFloat.sub_le_sub_right hfinite hscore

/-- The candidates come by decreasing confidence, be it from the sort of all or,
with one filter, from the scanner. -/
theorem pairwise_ordered (hthresholds : detector.HasThresholds)
    {accum : List RectDetection}
    (haccum : detector.detsAccum std scanner img = some accum) :
    (detector.ordered std accum).Pairwise fun a b =>
      b.detectionConfidence ≤ a.detectionConfidence := by
  unfold ordered
  split
  · exact std.sorted _ _ fun det hdet =>
      ne_nan_of_fires hthresholds ((mem_detsAccum haccum).mp hdet)
  · next hone =>
      obtain ⟨results, hresults, rfl⟩ := Option.map_eq_some_iff.mp haccum
      cases hw : detector.w with
      | nil =>
          rw [hw] at hresults
          cases hresults
          exact List.Pairwise.nil
      | cons weights others =>
          rw [hw, List.length_cons] at hone
          have hothers : others = [] := List.length_eq_zero_iff.mp (by omega)
          rw [hw, hothers] at hresults
          obtain ⟨dets, hdets, hrest⟩ := Option.bind_eq_some_iff.mp hresults
          cases hrest
          show (dets ++ []).Pairwise _
          rw [List.append_nil]
          exact pairwise_filterDets hthresholds (hw ▸ List.mem_cons_self) hdets

variable (std scanner img) in
/-- Non-max suppression reports what it owes, however the sort orders boxes of
equal score. -/
theorem reports_finalDets (hthresholds : detector.HasThresholds) :
    ∃ dets, detector.finalDets std scanner img = some dets ∧
      detector.Reports scanner img dets := by
  obtain ⟨accum, haccum⟩ := exists_detsAccum std scanner img hthresholds
  have hsorted := pairwise_ordered hthresholds haccum
  have hmem : ∀ {det}, det ∈ detector.ordered std accum ↔
      detector.Fires scanner img det :=
    (perm_ordered hthresholds haccum).mem_iff.trans (mem_detsAccum haccum)
  refine ⟨_, by rw [finalDets, haccum, Option.map_some], ?_, ?_, ?_, ?_⟩
  · intro det hdet
    exact hmem.mp ((firstFit_sublist _).subset hdet)
  · exact hsorted.sublist (firstFit_sublist _)
  · refine (pairwise_firstFit _).imp fun hfree => ⟨hfree, ?_⟩
    rw [TestBoxOverlap.test_comm]
    exact hfree
  · intro det hfires
    rcases mem_firstFit_or hsorted (hmem.mpr hfires) with
      hstays | ⟨better, hbetter, htest, hscore⟩
    · exact Or.inl hstays
    · exact Or.inr ⟨better, hbetter, hscore, htest,
        TestBoxOverlap.exists_common_of_test htest⟩

/-- No two places of the pyramid are reported with the same confidence. -/
def Untied (std : DescendingSort) (scanner : FhogScanner)
    (detector : ObjectDetector) (img : Array2d RgbPixel) : Prop :=
  ∀ accum, detector.detsAccum std scanner img = some accum →
    (accum.map fun det => det.detectionConfidence.extended).Nodup

variable (std scanner img) in
/-- Non-max suppression reports what it owes, however the sort orders boxes of
equal score; and what a report owes settles it: without ties there is no other
list without repetitions that reports it. -/
theorem finalDets_is_the_report (hthresholds : detector.HasThresholds) :
    ∃ dets, detector.finalDets std scanner img = some dets ∧
      detector.Reports scanner img dets ∧
      (detector.Untied std scanner img →
        ∀ other : List RectDetection, other.Nodup →
          detector.Reports scanner img other → other = dets) := by
  obtain ⟨dets, hdets, hreports⟩ := reports_finalDets std scanner img hthresholds
  refine ⟨dets, hdets, hreports, ?_⟩
  obtain ⟨accum, haccum, rfl⟩ := Option.map_eq_some_iff.mp hdets
  intro huntied other hnodup hother
  have hperm := perm_ordered hthresholds haccum
  have hinjective := List.inj_on_of_nodup_map (huntied accum haccum)
  have hsubset : ∀ {det}, detector.Fires scanner img det → det ∈ accum :=
    fun hfires => (mem_detsAccum haccum).mpr hfires
  -- Candidates of one confidence are one candidate.
  have hstrict : ∀ {list : List RectDetection}, list.Nodup → list ⊆ accum →
      list.Pairwise (fun a b => b.detectionConfidence ≤ a.detectionConfidence) →
        list.Pairwise fun a b =>
          b.detectionConfidence.extended < a.detectionConfidence.extended := by
    intro list hlist hin hsorted
    refine (hsorted.and hlist).imp_of_mem ?_
    rintro a b ha hb ⟨hle, hne⟩
    refine hle.2.2.lt_of_ne fun hequal => hne ?_
    exact hinjective (hin ha) (hin hb) hequal.symm
  have hsorted := hstrict (hperm.nodup_iff.mpr (huntied accum haccum).of_map)
    hperm.subset (pairwise_ordered hthresholds haccum)
  have hin : other ⊆ accum := fun det hdet => hsubset (hother.fires det hdet)
  have hdescending := hstrict hnodup hin hother.descending
  have hasymm : Std.Antisymm fun a b : RectDetection =>
      b.detectionConfidence.extended < a.detectionConfidence.extended :=
    ⟨fun a b hab hba => absurd hab hba.not_gt⟩
  have hkept : other.Sublist (detector.ordered std accum) :=
    List.sublist_of_subperm_of_pairwise
      (List.subperm_of_subset hnodup fun det hdet => hperm.symm.subset (hin hdet))
      hdescending hsorted
  apply eq_firstFit
    (fun det : RectDetection => lt_irrefl det.detectionConfidence.extended)
    (fun _ _ hab hba => absurd hab hba.not_gt) hsorted hkept
    (hother.apart.imp And.left)
  intro det hcandidate
  have hdet := hperm.subset hcandidate
  rcases hother.covered det ((mem_detsAccum haccum).mp hdet) with
    hstays | ⟨better, hbetter, hscore, htest, _⟩
  · exact Or.inl hstays
  · by_cases hstays : det ∈ other
    · exact Or.inl hstays
    · have hne : det ≠ better := fun hsame => hstays (hsame ▸ hbetter)
      refine Or.inr ⟨better, hbetter, htest,
        hscore.2.2.lt_of_ne fun hequal => hne ?_⟩
      exact hinjective hdet (hin hbetter) hequal

end ObjectDetector

end Report

/-- The scores of one filter at three places: the two on the left overlap, and
the second of them scores best of all. -/
def threePlaces : FhogScanner where
  levels _ _ _ :=
    [{ area := ⟨0, 0, 2, 0⟩
       saliency := fun _ c => .ofInt (if c = 0 then 3 else if c = 1 then 4 else 2)
       toImage := fun p =>
         if p.x = 2 then ⟨100, 0, 109, 9⟩ else ⟨p.x, 0, p.x + 9, 9⟩ }]

/-- A detector with windows of one cell, and one filter: its 31 weights, and the
threshold behind them. -/
def oneFilter : ObjectDetector where
  boxesOverlap := TestBoxOverlap.new
  w := [.zero true :: List.replicate 31 (.ofInt 1)]
  scanner :=
    { ScanFhogPyramid.new with padding := 0, windowWidth := 8, windowHeight := 8 }

theorem oneFilter_hasThresholds : oneFilter.HasThresholds := by
  intro weights hweights
  obtain rfl := List.mem_singleton.mp hweights
  exact ⟨.ofInt 1, rfl, by decide +kernel⟩

theorem threePlaces_report :
    ∃ dets, oneFilter.finalDets .stable threePlaces Array2d.new = some dets ∧
      oneFilter.Reports threePlaces Array2d.new dets ∧
      ∀ other : List RectDetection, other.Nodup →
        oneFilter.Reports threePlaces Array2d.new other → other = dets := by
  obtain ⟨dets, hdets, hreports, hunique⟩ :=
    ObjectDetector.finalDets_is_the_report .stable threePlaces Array2d.new
      oneFilter_hasThresholds
  refine ⟨dets, hdets, hreports, hunique ?_⟩
  have huntied : (oneFilter.detsAccum .stable threePlaces Array2d.new).all
      (fun accum => decide
        (accum.map fun det => det.detectionConfidence.extended).Nodup) = true := by
    decide +kernel
  intro accum haccum
  rw [haccum] at huntied
  exact of_decide_eq_true huntied

example :
    (oneFilter.finalDets .stable threePlaces Array2d.new).map
      (List.map RectDetection.rect) = some [⟨1, 0, 10, 9⟩, ⟨100, 0, 109, 9⟩] := by
  decide +kernel

end Dlib
end ImportDlibDemo
