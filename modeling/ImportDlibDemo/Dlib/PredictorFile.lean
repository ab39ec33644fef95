import ImportDlibDemo.Dlib.FloatSerialization

/-!
# The file format of `dlib::shape_predictor`

`serialize` and `deserialize` of a predictor and of everything in it, byte by
byte.  `deserialize` fills an object in place: it takes the object as it was
and, when it throws, leaves it as far as it got.

A predictor written on any platform is read on any platform
(`decodes_serializePredictor`), and a file that is cut off anywhere is refused.
-/

namespace ImportDlibDemo
namespace Dlib

open Library
open Library.PrefixDecoder

/-- A `deserialize` that fills an object in place. -/
abbrev Deserialize (T : Type) := T → Decoder (Broken T) T

variable {T : Type} {format : FloatFormat}

/-- `vector::resize`. -/
def resize (fresh : T) (item : List T) (size : Nat) : List T :=
  item.take size ++ List.replicate (size - item.length) fresh

/-- The loop that fills the elements of a container, front to back. -/
def readItems (deserialize : Deserialize T) : Deserialize (List T)
  | [] => succeed []
  | old :: others =>
      andThen (deserialize old) (fun broken => ⟨broken.info, broken.item :: others⟩)
        fun first =>
          andThen (readItems deserialize others)
            (fun broken => ⟨broken.info, first :: broken.item⟩)
            fun rest => succeed (first :: rest)

/-- `serialize` of a `std::vector`. -/
def serializeVector (platform : Platform) (write : T → List UInt8)
    (item : List T) : List UInt8 :=
  packUnsigned platform.unsignedLong item.length ++ item.flatMap write

/-- `deserialize` of a `std::vector`. -/
def deserializeVector (platform : Platform) (fresh : T)
    (deserialize : Deserialize T) : Deserialize (List T) := fun item =>
  let info := "\n   while deserializing object of type std::vector"
  andThen (unpackUnsigned platform.unsignedLong)
    (fun broken => ⟨broken.info ++ info, item⟩)
    fun size =>
      mapError (fun broken => ⟨broken.info ++ info, broken.item⟩)
        (readItems deserialize (resize fresh item size))

/-- `serialize` of a `matrix<float,0,1>`: the sizes are negated to tell the
format from an older one. -/
def serializeColumn (platform : Platform) (item : List (BinaryFloat format)) :
    List UInt8 :=
  packInt platform.long (-item.length) ++
    (packInt platform.long (-1) ++ item.flatMap serializeFloat)

/-- `matrix::set_size`: nothing when the size is already right. -/
def setRows (fresh : T) (item : List T) (nr : Nat) : List T :=
  if item.length = nr then item else List.replicate nr fresh

/-- `deserialize` of a `matrix<float,0,1>`, which has one column and any number
of rows. -/
def deserializeColumn (platform : Platform)
    (oldFormat : OldFormat (BinaryFloat format)) :
    Deserialize (List (BinaryFloat format)) := fun item =>
  let info := "\n   while deserializing a dlib::matrix"
  let blame (broken : Broken Int) : Broken (List (BinaryFloat format)) :=
    ⟨broken.info ++ info, item⟩
  andThen (unpackInt platform.long) blame fun nr =>
    andThen (unpackInt platform.long) blame fun nc =>
      let newer := nr < 0 ∨ nc < 0
      let nr := if newer then platform.long.wrap (-nr) else nr
      let nc := if newer then platform.long.wrap (-nc) else nc
      if nc ≠ 1 then fun _ =>
        .failed ⟨"Error while deserializing a dlib::matrix.  Invalid columns" ++
          info, item⟩
      -- No size of an allocation.
      else if nr < 0 then fun _ => .undefined
      else
        mapError (fun broken => ⟨broken.info ++ info, broken.item⟩)
          (readItems (deserializeFloat oldFormat)
            (setRows (.zero false) item nr.toNat))

/-- `serialize` of a `vector<float,2>`. -/
def serializePoint (item : BinaryFloat format × BinaryFloat format) :
    List UInt8 :=
  serializeFloat item.1 ++ serializeFloat item.2

/-- `deserialize` of a `vector<float,2>`, which is zero after an error. -/
def deserializePoint (oldFormat : OldFormat (BinaryFloat format)) :
    Deserialize (BinaryFloat format × BinaryFloat format) := fun item =>
  let blame (broken : Broken (BinaryFloat format)) :
      Broken (BinaryFloat format × BinaryFloat format) :=
    ⟨broken.info ++ "\n   while deserializing object of type vector",
      (.zero false, .zero false)⟩
  andThen (deserializeFloat oldFormat item.1) blame fun x =>
    andThen (deserializeFloat oldFormat item.2) blame fun y => succeed (x, y)

/-- `serialize` of an `impl::split_feature`. -/
def serializeSplit (platform : Platform)
    (item : SplitFeature (BinaryFloat format)) : List UInt8 :=
  packUnsigned platform.unsignedLong item.idx1 ++
    (packUnsigned platform.unsignedLong item.idx2 ++ serializeFloat item.thresh)

/-- `deserialize` of an `impl::split_feature`. -/
def deserializeSplit (platform : Platform)
    (oldFormat : OldFormat (BinaryFloat format)) :
    Deserialize (SplitFeature (BinaryFloat format)) := fun item =>
  andThen (unpackUnsigned platform.unsignedLong)
    (fun broken => ⟨broken.info, { item with idx1 := broken.item }⟩)
    fun idx1 =>
      andThen (unpackUnsigned platform.unsignedLong)
        (fun broken =>
          ⟨broken.info, { item with idx1 := idx1, idx2 := broken.item }⟩)
        fun idx2 =>
          andThen (deserializeFloat oldFormat item.thresh)
            (fun broken => ⟨broken.info, { idx1, idx2, thresh := broken.item }⟩)
            fun thresh => succeed { idx1, idx2, thresh }

/-- `serialize` of an `impl::regression_tree`. -/
def serializeTree (platform : Platform)
    (item : RegressionTree (BinaryFloat format)) : List UInt8 :=
  serializeVector platform (serializeSplit platform) item.splits ++
    serializeVector platform (serializeColumn platform) item.leafValues

/-- `deserialize` of an `impl::regression_tree`. -/
def deserializeTree (platform : Platform)
    (oldFormat : OldFormat (BinaryFloat format)) :
    Deserialize (RegressionTree (BinaryFloat format)) := fun item =>
  andThen
    (deserializeVector platform { idx1 := 0, idx2 := 0, thresh := .zero false }
      (deserializeSplit platform oldFormat) item.splits)
    (fun broken => ⟨broken.info, { item with splits := broken.item }⟩)
    fun splits =>
      andThen
        (deserializeVector platform [] (deserializeColumn platform oldFormat)
          item.leafValues)
        (fun broken => ⟨broken.info, { splits, leafValues := broken.item }⟩)
        fun leafValues => succeed { splits, leafValues }

/-- `serialize(const shape_predictor&, std::ostream&)`. -/
def serializePredictor (platform : Platform)
    (item : ShapePredictor (BinaryFloat format)) : List UInt8 :=
  packInt .int 1 ++
    (serializeColumn platform item.initialShape ++
      (serializeVector platform
          (serializeVector platform (serializeTree platform)) item.forests ++
        (serializeVector platform
            (serializeVector platform (packUnsigned platform.unsignedLong))
            item.anchorIdx ++
          serializeVector platform (serializeVector platform serializePoint)
            item.deltas)))

/-- `deserialize(shape_predictor&, std::istream&)`. -/
def deserializePredictor (platform : Platform)
    (oldFormat : OldFormat (BinaryFloat format)) :
    Deserialize (ShapePredictor (BinaryFloat format)) := fun item =>
  andThen (unpackInt .int) (fun broken => ⟨broken.info, item⟩) fun version =>
    if version ≠ 1 then fun _ =>
      .failed ⟨"Unexpected version found while deserializing " ++
        "dlib::shape_predictor.", item⟩
    else
      andThen (deserializeColumn platform oldFormat item.initialShape)
        (fun broken => ⟨broken.info, { item with initialShape := broken.item }⟩)
        fun initialShape =>
      andThen
        (deserializeVector platform []
          (deserializeVector platform { splits := [], leafValues := [] }
            (deserializeTree platform oldFormat)) item.forests)
        (fun broken =>
          ⟨broken.info, { item with initialShape, forests := broken.item }⟩)
        fun forests =>
      andThen
        (deserializeVector platform []
          (deserializeVector platform 0
            fun _ => unpackUnsigned platform.unsignedLong) item.anchorIdx)
        (fun broken =>
          ⟨broken.info,
            { item with initialShape, forests, anchorIdx := broken.item }⟩)
        fun anchorIdx =>
      andThen
        (deserializeVector platform []
          (deserializeVector platform (.zero false, .zero false)
            (deserializePoint oldFormat)) item.deltas)
        (fun broken =>
          ⟨broken.info,
            { initialShape, forests, anchorIdx, deltas := broken.item }⟩)
        fun deltas => succeed { initialShape, forests, anchorIdx, deltas }

/-! ## What fits into a file -/

/-- Sizes and indices that a `long` of four bytes holds, so every platform. -/
def Fits (n : Nat) : Prop := n < 2 ^ 31

instance (n : Nat) : Decidable (Fits n) := inferInstanceAs (Decidable (_ < _))

/-- The sizes and indices of a tree fit. -/
structure RegressionTree.Fits {F : Type} (tree : RegressionTree F) : Prop where
  splits : Dlib.Fits tree.splits.length
  indices : ∀ split ∈ tree.splits, Dlib.Fits split.idx1 ∧ Dlib.Fits split.idx2
  leaves : Dlib.Fits tree.leafValues.length
  leaf : ∀ leaf ∈ tree.leafValues, Dlib.Fits leaf.length

/-- The sizes and indices of a predictor fit. -/
structure ShapePredictor.Fits {F : Type} (predictor : ShapePredictor F) :
    Prop where
  initialShape : Dlib.Fits predictor.initialShape.length
  forests : Dlib.Fits predictor.forests.length
  forest : ∀ forest ∈ predictor.forests, Dlib.Fits forest.length
  tree : ∀ forest ∈ predictor.forests, ∀ tree ∈ forest, tree.Fits
  anchorIdx : Dlib.Fits predictor.anchorIdx.length
  anchors : ∀ anchors ∈ predictor.anchorIdx, Dlib.Fits anchors.length
  anchor : ∀ anchors ∈ predictor.anchorIdx, ∀ anchor ∈ anchors, Dlib.Fits anchor
  deltas : Dlib.Fits predictor.deltas.length
  delta : ∀ deltas ∈ predictor.deltas, Dlib.Fits deltas.length

theorem Fits.holdsUnsigned {n : Nat} (hn : Fits n) (platform : Platform) :
    platform.unsignedLong.HoldsUnsigned n := by
  unfold Fits at hn
  unfold IntType.HoldsUnsigned
  cases platform with
  | bits32 => exact hn.trans (by norm_num [Platform.unsignedLong])
  | bits64 => exact hn.trans (by norm_num [Platform.unsignedLong])

theorem Fits.holds_natCast {n : Nat} (hn : Fits n) (platform : Platform) :
    platform.long.Holds n := by
  unfold Fits at hn
  apply IntType.holds_of_abs_lt
  rw [Nat.abs_cast]
  cases platform with
  | bits32 => exact_mod_cast hn
  | bits64 => exact_mod_cast hn.trans (by norm_num [Platform.long])

theorem Fits.holds {n : Nat} (hn : Fits n) (platform : Platform) :
    platform.long.Holds (-n) := by
  obtain ⟨_, hless⟩ := hn.holds_natCast platform
  constructor
  · exact neg_le_neg hless.le
  · exact (neg_nonpos.mpr (Int.natCast_nonneg n)).trans_lt (by positivity)

/-- A size is written and read on any two platforms. -/
theorem decodes_size (writer reader : Platform) {n : Nat} (hn : Fits n) :
    Decodes (unpackUnsigned reader.unsignedLong)
      (packUnsigned writer.unsignedLong n) n :=
  decodes_packUnsigned (hn.holdsUnsigned writer) (hn.holdsUnsigned reader)

/-! ## What was written is read -/

section Containers

variable {write : T → List UInt8} {settle : T → T}
  {deserialize : Deserialize T}

/-- Elements that are read as `settle` says are read so one after the other,
whatever was in their places. -/
theorem decodes_readItems {items olds : List T}
    (hlength : olds.length = items.length)
    (hone : ∀ x ∈ items, ∀ old,
      Decodes (deserialize old) (write x) (settle x)) :
    Decodes (readItems deserialize olds) (items.flatMap write)
      (items.map settle) := by
  induction items generalizing olds with
  | nil =>
      obtain rfl := List.length_eq_zero_iff.mp hlength
      exact decodes_succeed []
  | cons x rest ih =>
      obtain ⟨old, others, rfl⟩ : ∃ old others, olds = old :: others :=
        List.exists_cons_of_length_eq_add_one hlength
      rw [List.length_cons, List.length_cons, Nat.add_right_cancel_iff] at hlength
      rw [List.flatMap_cons, List.map_cons, readItems]
      apply Decodes.andThen (hone x List.mem_cons_self old)
      exact (ih hlength fun y hy => hone y (List.mem_cons_of_mem x hy)).andThen_succeed
        fun rest => settle x :: rest

theorem length_resize (fresh : T) (item : List T) (size : Nat) :
    (resize fresh item size).length = size := by
  rw [resize, List.length_append, List.length_take, List.length_replicate]
  omega

theorem length_setRows (fresh : T) (item : List T) (nr : Nat) :
    (setRows fresh item nr).length = nr := by
  unfold setRows
  split
  · next hsame => exact hsame
  · exact List.length_replicate

theorem decodes_serializeVector (writer reader : Platform) (fresh : T)
    (settle : T → T) {items : List T} (hsize : Fits items.length)
    (hone : ∀ x ∈ items, ∀ old,
      Decodes (deserialize old) (write x) (settle x)) (old : List T) :
    Decodes (deserializeVector reader fresh deserialize old)
      (serializeVector writer write items) (items.map settle) := by
  apply Decodes.andThen (decodes_size writer reader hsize)
  exact (decodes_readItems (length_resize fresh old items.length) hone).mapError

end Containers

section Predictor

variable (hstored : Stored format)
  (oldFormat : OldFormat (BinaryFloat format)) (writer reader : Platform)

include hstored in
theorem decodes_serializeColumn {item : List (BinaryFloat format)}
    (hsize : Fits item.length) (old : List (BinaryFloat format)) :
    Decodes (deserializeColumn reader oldFormat old)
      (serializeColumn writer item) (item.map BinaryFloat.unsignZero) := by
  have hcolumn : Fits 1 := by decide
  have hback : ∀ n : Nat, Fits n →
      reader.long.wrap (-(-n : Int)) = (n : Int) := by
    intro n hn
    rw [neg_neg]
    exact IntType.wrap_of_holds (hn.holds_natCast reader)
  apply Decodes.andThen (decodes_packInt (hsize.holds writer) (hsize.holds reader))
  apply Decodes.andThen
    (decodes_packInt (hcolumn.holds writer) (hcolumn.holds reader))
  -- One column is written as -1, so both sizes are negated.
  have hnewer : -(item.length : Int) < 0 ∨ -((1 : Nat) : Int) < 0 :=
    Or.inr (by decide)
  simp only [if_pos hnewer, hback item.length hsize, hback 1 hcolumn]
  rw [if_neg (by decide), if_neg (by omega), Int.toNat_natCast]
  apply Decodes.mapError
  exact decodes_readItems (length_setRows _ _ _)
    fun x _ old => decodes_serializeFloat hstored oldFormat old x

include hstored in
theorem decodes_serializePoint (item old : BinaryFloat format × BinaryFloat format) :
    Decodes (deserializePoint oldFormat old) (serializePoint item)
      (item.map BinaryFloat.unsignZero BinaryFloat.unsignZero) := by
  apply Decodes.andThen (decodes_serializeFloat hstored oldFormat old.1 item.1)
  exact (decodes_serializeFloat hstored oldFormat old.2 item.2).andThen_succeed
    fun y => (item.1.unsignZero, y)

include hstored in
theorem decodes_serializeSplit {item : SplitFeature (BinaryFloat format)}
    (hidx : Fits item.idx1 ∧ Fits item.idx2)
    (old : SplitFeature (BinaryFloat format)) :
    Decodes (deserializeSplit reader oldFormat old) (serializeSplit writer item)
      (item.map BinaryFloat.unsignZero) := by
  apply Decodes.andThen (decodes_size writer reader hidx.1)
  apply Decodes.andThen (decodes_size writer reader hidx.2)
  exact (decodes_serializeFloat hstored oldFormat old.thresh
    item.thresh).andThen_succeed
      (SplitFeature.mk item.idx1 item.idx2)

include hstored in
theorem decodes_serializeTree {item : RegressionTree (BinaryFloat format)}
    (hitem : item.Fits) (old : RegressionTree (BinaryFloat format)) :
    Decodes (deserializeTree reader oldFormat old) (serializeTree writer item)
      (item.map BinaryFloat.unsignZero) := by
  apply Decodes.andThen (decodes_serializeVector writer reader _ _ hitem.splits
    (fun split hsplit old => decodes_serializeSplit hstored oldFormat writer
      reader (hitem.indices split hsplit) old) old.splits)
  exact (decodes_serializeVector writer reader _ _ hitem.leaves
    (fun leaf hleaf old => decodes_serializeColumn hstored oldFormat writer
      reader (hitem.leaf leaf hleaf) old) old.leafValues).andThen_succeed
      (RegressionTree.mk
        (item.splits.map (SplitFeature.map BinaryFloat.unsignZero)))

include hstored in
/-- A predictor written on one platform is read on any other one, into any
object, as it was but for the signs of zeros; and a stream that ends anywhere
inside it is refused. -/
theorem decodes_serializePredictor {item : ShapePredictor (BinaryFloat format)}
    (hitem : item.Fits) (old : ShapePredictor (BinaryFloat format)) :
    Decodes (deserializePredictor reader oldFormat old)
      (serializePredictor writer item) (item.map BinaryFloat.unsignZero) := by
  have hversion : IntType.int.Holds 1 := IntType.int_holds_of_small (by decide)
  apply Decodes.andThen (decodes_packInt hversion hversion)
  rw [if_neg (by decide)]
  apply Decodes.andThen (decodes_serializeColumn hstored oldFormat writer reader
    hitem.initialShape old.initialShape)
  apply Decodes.andThen (decodes_serializeVector writer reader _ _ hitem.forests
    (fun forest hforest old => decodes_serializeVector writer reader _ _
      (hitem.forest forest hforest)
      (fun tree htree old => decodes_serializeTree hstored oldFormat writer
        reader (hitem.tree forest hforest tree htree) old) old) old.forests)
  apply Decodes.andThen (decodes_serializeVector writer reader _ id
    hitem.anchorIdx
    (fun anchors hanchors old => by
      have hread := decodes_serializeVector writer reader 0 id
        (hitem.anchors anchors hanchors)
        (fun anchor hanchor _ =>
          decodes_size writer reader (hitem.anchor anchors hanchors anchor hanchor))
        old
      rwa [List.map_id] at hread) old.anchorIdx)
  rw [List.map_id]
  exact (decodes_serializeVector writer reader _ _ hitem.deltas
    (fun deltas hdeltas old => decodes_serializeVector writer reader _ _
      (hitem.delta deltas hdeltas)
      (fun delta _ old => decodes_serializePoint hstored oldFormat delta old)
      old) old.deltas).andThen_succeed
      (ShapePredictor.mk
        (item.initialShape.map BinaryFloat.unsignZero)
        (item.forests.map (List.map (RegressionTree.map BinaryFloat.unsignZero)))
        item.anchorIdx)

end Predictor

/-! ## One file on every platform -/

section Platforms

variable (writer other : Platform)

theorem packUnsigned_of_fits {n : Nat} (hn : Fits n) :
    packUnsigned other.unsignedLong n = packUnsigned writer.unsignedLong n :=
  packUnsigned_congr (hn.holdsUnsigned other) (hn.holdsUnsigned writer)

theorem serializeVector_congr {write writeOther : T → List UInt8}
    {settle : T → T} {items : List T} (hsize : Fits items.length)
    (hone : ∀ x ∈ items, writeOther (settle x) = write x) :
    serializeVector other writeOther (items.map settle) =
      serializeVector writer write items := by
  have hitems : (items.map settle).flatMap writeOther = items.flatMap write := by
    rw [List.flatMap_map]
    exact List.flatMap_congr hone
  rw [serializeVector, serializeVector, List.length_map, hitems,
    packUnsigned_of_fits writer other hsize]

theorem serializeColumn_congr {item : List (BinaryFloat format)}
    (hsize : Fits item.length) :
    serializeColumn other (item.map BinaryFloat.unsignZero) =
      serializeColumn writer item := by
  have hitems : (item.map BinaryFloat.unsignZero).flatMap serializeFloat =
      item.flatMap serializeFloat := by
    rw [List.flatMap_map]
    exact List.flatMap_congr fun x _ => serializeFloat_unsignZero x
  have hcolumn : Fits 1 := by decide
  have hone : packInt other.long (-1) = packInt writer.long (-1) :=
    packInt_congr (hcolumn.holds other) (hcolumn.holds writer)
  rw [serializeColumn, serializeColumn, List.length_map, hitems, hone,
    packInt_congr (hsize.holds other) (hsize.holds writer)]

theorem serializePoint_unsignZero
    (item : BinaryFloat format × BinaryFloat format) :
    serializePoint (item.map BinaryFloat.unsignZero BinaryFloat.unsignZero) =
      serializePoint item := by
  simp only [serializePoint, Prod.map, serializeFloat_unsignZero]

theorem serializeTree_congr {item : RegressionTree (BinaryFloat format)}
    (hitem : item.Fits) :
    serializeTree other (item.map BinaryFloat.unsignZero) =
      serializeTree writer item := by
  have hsplits : serializeVector other (serializeSplit other)
        (item.splits.map (SplitFeature.map BinaryFloat.unsignZero)) =
      serializeVector writer (serializeSplit writer) item.splits := by
    apply serializeVector_congr writer other hitem.splits
    intro split hsplit
    obtain ⟨hidx1, hidx2⟩ := hitem.indices split hsplit
    simp only [serializeSplit, SplitFeature.map, serializeFloat_unsignZero,
      packUnsigned_of_fits writer other hidx1,
      packUnsigned_of_fits writer other hidx2]
  have hleaves : serializeVector other (serializeColumn other)
        (item.leafValues.map (List.map BinaryFloat.unsignZero)) =
      serializeVector writer (serializeColumn writer) item.leafValues :=
    serializeVector_congr writer other hitem.leaves
      fun leaf hleaf => serializeColumn_congr writer other (hitem.leaf leaf hleaf)
  rw [serializeTree, serializeTree, ← hsplits, ← hleaves]
  rfl

/-- The file says neither which platform wrote it nor which zeros were
negative. -/
theorem serializePredictor_congr {item : ShapePredictor (BinaryFloat format)}
    (hitem : item.Fits) :
    serializePredictor other (item.map BinaryFloat.unsignZero) =
      serializePredictor writer item := by
  have hforests : serializeVector other
        (serializeVector other (serializeTree other))
        (item.forests.map (List.map (RegressionTree.map BinaryFloat.unsignZero))) =
      serializeVector writer (serializeVector writer (serializeTree writer))
        item.forests :=
    serializeVector_congr writer other hitem.forests fun forest hforest =>
      serializeVector_congr writer other (hitem.forest forest hforest)
        fun tree htree =>
          serializeTree_congr writer other (hitem.tree forest hforest tree htree)
  have hanchors : serializeVector other
        (serializeVector other (packUnsigned other.unsignedLong))
        (item.anchorIdx.map id) =
      serializeVector writer
        (serializeVector writer (packUnsigned writer.unsignedLong))
        item.anchorIdx := by
    apply serializeVector_congr writer other hitem.anchorIdx
    intro anchors hanchors
    have hone : ∀ anchor ∈ anchors, packUnsigned other.unsignedLong (id anchor) =
        packUnsigned writer.unsignedLong anchor :=
      fun anchor hanchor => packUnsigned_of_fits writer other
        (hitem.anchor anchors hanchors anchor hanchor)
    have hvector := serializeVector_congr writer other
      (hitem.anchors anchors hanchors) hone
    rwa [List.map_id] at hvector
  have hdeltas : serializeVector other (serializeVector other serializePoint)
        (item.deltas.map (List.map
          (Prod.map BinaryFloat.unsignZero BinaryFloat.unsignZero))) =
      serializeVector writer (serializeVector writer serializePoint)
        item.deltas :=
    serializeVector_congr writer other hitem.deltas fun deltas hdeltas =>
      serializeVector_congr writer other (hitem.delta deltas hdeltas)
        fun delta _ => serializePoint_unsignZero delta
  rw [List.map_id] at hanchors
  simp only [serializePredictor, ShapePredictor.map, hforests, hanchors, hdeltas,
    serializeColumn_congr writer other hitem.initialShape]

/-- One file for all platforms: each writes a predictor as the same bytes; each
reads them back into a predictor that it would write as these bytes again; and
none reads a file that ends too early. -/
theorem predictorFile_portable (hstored : Stored format)
    (oldFormat : OldFormat (BinaryFloat format))
    {item : ShapePredictor (BinaryFloat format)} (hitem : item.Fits)
    (old : ShapePredictor (BinaryFloat format)) :
    let bytes := serializePredictor writer item
    serializePredictor other item = bytes ∧
      (∀ rest, ∃ read,
        deserializePredictor other oldFormat old (bytes ++ rest) =
            .value read rest ∧
          read = item.map BinaryFloat.unsignZero ∧
          serializePredictor other read = bytes) ∧
      ∀ front, front <+: bytes → front ≠ bytes →
        ∃ error, deserializePredictor other oldFormat old front =
          .failed error := by
  intro bytes
  have hdecodes := decodes_serializePredictor hstored oldFormat writer other
    hitem old
  have hbytes := serializePredictor_congr writer other hitem
  refine ⟨?_, ?_, hdecodes.cut⟩
  · exact (serializePredictor_congr other other hitem).symm.trans hbytes
  · intro rest
    exact ⟨_, hdecodes.whole rest, rfl, hbytes⟩

end Platforms

/-- 68 parts at the origin, which a tree moves where the pixel there is brighter
than its neighbour on the left. -/
def oneTree : ShapePredictor (BinaryFloat binary32) where
  initialShape := List.replicate 136 (.zero true)
  forests :=
    [[{ splits := [⟨0, 1, .ofInt 100⟩]
        leafValues :=
          [List.replicate 136 (.ofInt 1), List.replicate 136 (.zero true)] }]]
  anchorIdx := [[0, 67]]
  deltas := [[(.zero false, .zero false), (.ofInt (-1), .zero true)]]

theorem oneTree_numParts : oneTree.numParts = 68 := by
  simp [ShapePredictor.numParts, oneTree]

theorem oneTree_fits : oneTree.Fits where
  initialShape := by
    rw [oneTree, List.length_replicate]
    decide
  forests := by decide
  forest := by decide
  tree := by
    intro forest hforest tree htree
    obtain rfl := List.mem_singleton.mp hforest
    obtain rfl := List.mem_singleton.mp htree
    refine ⟨by decide, by decide, by decide, ?_⟩
    simp only [List.forall_mem_cons, List.length_replicate]
    decide
  anchorIdx := by decide
  anchors := by decide
  anchor := by decide
  deltas := by decide
  delta := by decide

theorem oneTree_portable :
    let oldFormat : OldFormat (BinaryFloat binary32) :=
      fun item _ => .failed ⟨"", item⟩
    let bytes := serializePredictor .bits64 oneTree
    serializePredictor .bits32 oneTree = bytes ∧
      (∀ rest, ∃ read,
        deserializePredictor .bits32 oldFormat ShapePredictor.new (bytes ++ rest) =
            .value read rest ∧
          read = oneTree.map BinaryFloat.unsignZero ∧
          serializePredictor .bits32 read = bytes) ∧
      ∀ front, front <+: bytes → front ≠ bytes →
        ∃ error, deserializePredictor .bits32 oldFormat ShapePredictor.new front =
          .failed error := by
  intro oldFormat
  exact predictorFile_portable .bits64 .bits32 stored_binary32 oldFormat
    oneTree_fits ShapePredictor.new

end Dlib
end ImportDlibDemo
