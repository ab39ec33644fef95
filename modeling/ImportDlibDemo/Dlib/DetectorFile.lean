import ImportDlibDemo.Dlib.ObjectDetection
import ImportDlibDemo.Dlib.PredictorFile

/-!
# The file format of `dlib::object_detector`

The detector of the toys and what it consists of: the scanner of FHOG pyramids,
the overlap test and the weights of the filters.  The configuration of the
scanner says how many weights a filter has, and the file says it once more.

Violated requirements are undefined behaviour here, as are allocations of
negative sizes, and the `fatal_error` of an array that is larger than its
maximum.  The rectangle of a window is as large as it says, also where a `long`
could not hold its edges.
-/

namespace ImportDlibDemo
namespace Dlib

open Library
open Library.PrefixDecoder

/-- `copy_configuration` into a new scanner: everything but the features. -/
def ScanFhogPyramid.copyConfiguration (item : ScanFhogPyramid) :
    ScanFhogPyramid :=
  { item with feats := DlibArray.new }

/-! ## Filling one field after the other -/

section Fields

variable {S T : Type}

/-- `deserialize` of a field. -/
def readField (get : S → T) (set : S → T → S) (deserialize : Deserialize T) :
    Deserialize S := fun item =>
  andThen (deserialize (get item))
    (fun broken => ⟨broken.info, set item broken.item⟩)
    fun field => succeed (set item field)

/-- One `deserialize` after the other, on the same object. -/
def readThen (first second : Deserialize S) : Deserialize S := fun item =>
  andThen (first item) id second

theorem decodes_readField {get : S → T} {set : S → T → S}
    {deserialize : Deserialize T} {item : S} {bytes : List UInt8} {field : T}
    (hfield : Decodes (deserialize (get item)) bytes field) :
    Decodes (readField get set deserialize item) bytes (set item field) :=
  hfield.andThen_succeed (set item)

theorem decodes_readThen {first second : Deserialize S} {item middle last : S}
    {bytes more : List UInt8} (hfirst : Decodes (first item) bytes middle)
    (hsecond : Decodes (second middle) more last) :
    Decodes (readThen first second item) (bytes ++ more) last :=
  Decodes.andThen hfirst hsecond

end Fields

/-! ## Arrays -/

variable {T : Type}

/-- `serialize` of a `dlib::array`. -/
def serializeArray (platform : Platform) (write : T → List UInt8)
    (item : DlibArray T) : List UInt8 :=
  packUnsigned platform.unsignedLong item.maxSize ++
    (packUnsigned platform.unsignedLong item.items.length ++
      item.items.flatMap write)

/-- `deserialize` of a `dlib::array`, which is cleared after an error.  When the
maximum stays the same so do the elements, but each of them is read over. -/
def deserializeArray (platform : Platform) (fresh : T)
    (deserialize : Deserialize T) : Deserialize (DlibArray T) := fun _ =>
  let blame {S : Type} (broken : Broken S) : Broken (DlibArray T) :=
    ⟨broken.info ++ "\n   while deserializing object of type array", DlibArray.new⟩
  andThen (unpackUnsigned platform.unsignedLong) blame fun maxSize =>
    andThen (unpackUnsigned platform.unsignedLong) blame fun size =>
      if maxSize < size then fun _ => .undefined
      else
        andThen (readItems deserialize (List.replicate size fresh)) blame
          fun items => succeed { maxSize, items }

/-- `serialize` of an `array2d<float>`. -/
def serializeArray2d (platform : Platform) (item : FeatureArray2d) :
    List UInt8 :=
  packInt platform.long (-item.nr) ++
    (packInt platform.long (-item.nc) ++ item.elements.flatMap serializeFloat)

/-- `deserialize` of an `array2d<float>`, which is cleared after an error.  In
the older format the sizes are not negated and stand the other way round. -/
def deserializeArray2d (platform : Platform) (oldFormat : OldFormat CppFloat) :
    Deserialize FeatureArray2d := fun _ =>
  let blame {S : Type} (broken : Broken S) : Broken FeatureArray2d :=
    ⟨broken.info ++ "\n   while deserializing object of type array2d",
      FeatureArray2d.new⟩
  andThen (unpackInt platform.long) blame fun first =>
    andThen (unpackInt platform.long) blame fun second =>
      let newer := first < 0 ∨ second < 0
      let nr := if newer then platform.long.wrap (-first) else second
      let nc := if newer then platform.long.wrap (-second) else first
      -- The loop over the cells of empty rows runs past their end.
      if nr < 0 ∨ nc < 0 ∨ (0 < nr ∧ nc = 0) then fun _ => .undefined
      else
        andThen (readItems (deserializeFloat oldFormat)
            (List.replicate (nr.toNat * nc.toNat) (.zero false))) blame
          fun elements => succeed { nr := nr.toNat, nc := nc.toNat, elements }

/-! ## The detector -/

/-- What a `scan_fhog_pyramid` writes of its fields; its feature extractor writes
nothing. -/
def scannerFieldBytes (platform : Platform) (item : ScanFhogPyramid) :
    List UInt8 :=
  serializeArray platform
      (serializeArray platform (serializeArray2d platform)) item.feats ++
    (packInt .int item.cellSize ++
      (packUnsigned platform.unsignedLong item.padding ++
        (packUnsigned platform.unsignedLong item.windowWidth ++
          (packUnsigned platform.unsignedLong item.windowHeight ++
            (packUnsigned platform.unsignedLong item.maxPyramidLevels ++
              (packUnsigned platform.unsignedLong item.minPyramidLayerWidth ++
                (packUnsigned platform.unsignedLong item.minPyramidLayerHeight ++
                  serializeFloat item.nuclearNormRegularizationStrength)))))))

/-- A scanner with the number of dimensions the file says it has. -/
def scannerBytes (platform : Platform) (item : ScanFhogPyramid) (dims : Int) :
    List UInt8 :=
  packInt .int 1 ++ (scannerFieldBytes platform item ++ packInt platform.long dims)

/-- `serialize` of a `scan_fhog_pyramid`. -/
def serializeScanner (platform : Platform) (item : ScanFhogPyramid) :
    Option (List UInt8) :=
  item.numDimensions.map fun dims => scannerBytes platform item dims

section Reading

variable (platform : Platform) (oldFloat : OldFormat CppFloat)
  (oldDouble : OldFormat CppDouble)

/-- The error of a scanner whose windows have another number of dimensions. -/
def dimensionsError : String :=
  "Number of dimensions in serialized scan_fhog_pyramid doesn't match the " ++
    "expected number."

/-- The check at the end of a scanner. -/
def checkDimensions : Deserialize ScanFhogPyramid := fun item =>
  andThen (unpackInt platform.long) (fun broken => ⟨broken.info, item⟩) fun dims =>
    match item.numDimensions with
    | none => fun _ => .undefined
    | some expected =>
        if (expected : Int) ≠ dims then fun _ => .failed ⟨dimensionsError, item⟩
        else succeed item

/-- The fields of a scanner, in their order. -/
def readScannerFields : Deserialize ScanFhogPyramid :=
  readThen
    (readField ScanFhogPyramid.feats (fun item feats => { item with feats })
      (deserializeArray platform DlibArray.new
        (deserializeArray platform FeatureArray2d.new
          (deserializeArray2d platform oldFloat)))) <|
  readThen
    (readField ScanFhogPyramid.cellSize (fun item cellSize => { item with cellSize })
      fun _ => unpackInt .int) <|
  readThen
    (readField ScanFhogPyramid.padding (fun item padding => { item with padding })
      fun _ => unpackUnsigned platform.unsignedLong) <|
  readThen
    (readField ScanFhogPyramid.windowWidth
      (fun item windowWidth => { item with windowWidth })
      fun _ => unpackUnsigned platform.unsignedLong) <|
  readThen
    (readField ScanFhogPyramid.windowHeight
      (fun item windowHeight => { item with windowHeight })
      fun _ => unpackUnsigned platform.unsignedLong) <|
  readThen
    (readField ScanFhogPyramid.maxPyramidLevels
      (fun item maxPyramidLevels => { item with maxPyramidLevels })
      fun _ => unpackUnsigned platform.unsignedLong) <|
  readThen
    (readField ScanFhogPyramid.minPyramidLayerWidth
      (fun item minPyramidLayerWidth => { item with minPyramidLayerWidth })
      fun _ => unpackUnsigned platform.unsignedLong) <|
  readThen
    (readField ScanFhogPyramid.minPyramidLayerHeight
      (fun item minPyramidLayerHeight => { item with minPyramidLayerHeight })
      fun _ => unpackUnsigned platform.unsignedLong) <|
  readField ScanFhogPyramid.nuclearNormRegularizationStrength
    (fun item nuclearNormRegularizationStrength =>
      { item with nuclearNormRegularizationStrength })
    (deserializeFloat oldDouble)

/-- `deserialize` of a `scan_fhog_pyramid`. -/
def deserializeScanner : Deserialize ScanFhogPyramid := fun item =>
  andThen (unpackInt .int) (fun broken => ⟨broken.info, item⟩) fun version =>
    if version ≠ 1 then fun _ =>
      .failed ⟨"Unsupported version found when deserializing a " ++
        "scan_fhog_pyramid object.", item⟩
    else
      readThen (readScannerFields platform oldFloat oldDouble)
        (checkDimensions platform) item

/-- `serialize` of a `test_box_overlap`. -/
def serializeOverlap (item : TestBoxOverlap) : List UInt8 :=
  serializeFloat item.iouThresh ++ serializeFloat item.percentCoveredThresh

/-- `deserialize` of a `test_box_overlap`, by way of two variables that have no
values yet; these cannot be told from zeros. -/
def deserializeOverlap : Deserialize (TestBoxOverlap) := fun item =>
  let blame (broken : Broken CppDouble) : Broken (TestBoxOverlap) :=
    ⟨broken.info, item⟩
  andThen (deserializeFloat oldDouble (.zero false)) blame fun iouThresh =>
    andThen (deserializeFloat oldDouble (.zero false)) blame
      fun percentCoveredThresh => succeed { iouThresh, percentCoveredThresh }

/-- There are enough weights for the filter bank, and there is a filter. -/
def ScanFhogPyramid.holdsFilters (scanner : ScanFhogPyramid)
    (w : List CppDouble) : Bool :=
  match scanner.numDimensions with
  | none => false
  | some dims => 0 < dims && dims ≤ w.length

/-- `deserialize` of the weights of one filter, and `init`, which reads behind
the end of too few weights. -/
def deserializeWeights (scanner : ScanFhogPyramid) :
    Deserialize (List CppDouble) := fun item =>
  andThen (deserializeColumn platform oldDouble item) id fun w =>
    if scanner.holdsFilters w then succeed w else fun _ => .undefined

/-- The loop over the filters, behind `w.resize(size)`. -/
def readFilters (size : Nat) : Deserialize ObjectDetector := fun item =>
  readField ObjectDetector.w (fun item w => { item with w })
    (fun w => readItems (deserializeWeights platform oldDouble item.scanner)
      (resize [] w size)) item

/-- The number of the filters, then the loop. -/
def readAllFilters : Deserialize ObjectDetector := fun item =>
  andThen (unpackUnsigned platform.unsignedLong)
    (fun broken => ⟨broken.info, item⟩)
    fun numDetectors => readFilters platform oldDouble numDetectors item

/-- `deserialize(object_detector&, std::istream&)`. -/
def deserializeDetector : Deserialize ObjectDetector := fun item =>
  let readScanner := readField ObjectDetector.scanner
    (fun item scanner => { item with scanner })
    (deserializeScanner platform oldFloat oldDouble)
  let readOverlap := readField ObjectDetector.boxesOverlap
    (fun item boxesOverlap => { item with boxesOverlap })
    (deserializeOverlap oldDouble)
  andThen (unpackInt .int) (fun broken => ⟨broken.info, item⟩) fun version =>
    if version = 1 then
      readThen readScanner
        (readThen (readFilters platform oldDouble 1) readOverlap) item
    else if version = 2 then
      readThen readScanner
        (readThen readOverlap (readAllFilters platform oldDouble)) item
    else fun _ =>
      .failed ⟨"Unexpected version encountered while deserializing a " ++
        "dlib::object_detector object.", item⟩

end Reading

/-- `serialize(const object_detector&, std::ostream&)`: the scanner without what
it has been loaded with. -/
def serializeDetector (platform : Platform) (item : ObjectDetector) :
    Option (List UInt8) :=
  (serializeScanner platform item.scanner.copyConfiguration).map fun scanner =>
    packInt .int 2 ++
      (scanner ++
        (serializeOverlap item.boxesOverlap ++
          (packUnsigned platform.unsignedLong item.w.length ++
            item.w.flatMap (serializeColumn platform))))

/-! ## What was written is read -/

/-- The numbers of a scanner fit into a file, and its windows have dimensions. -/
structure ScanFhogPyramid.Fits (scanner : ScanFhogPyramid) (dims : Nat) :
    Prop where
  numDimensions : scanner.numDimensions = some dims
  some_dims : 0 < dims
  fits_dims : Dlib.Fits dims
  cellSize : IntType.int.Holds scanner.cellSize
  padding : Dlib.Fits scanner.padding
  windowWidth : Dlib.Fits scanner.windowWidth
  windowHeight : Dlib.Fits scanner.windowHeight
  maxPyramidLevels : Dlib.Fits scanner.maxPyramidLevels
  minPyramidLayerWidth : Dlib.Fits scanner.minPyramidLayerWidth
  minPyramidLayerHeight : Dlib.Fits scanner.minPyramidLayerHeight

/-- The numbers of a detector fit, and every filter has its weights and a
threshold behind them. -/
structure ObjectDetector.Fits (detector : ObjectDetector) (dims : Nat) : Prop where
  scanner : detector.scanner.Fits dims
  filters : Dlib.Fits detector.w.length
  filter : ∀ w ∈ detector.w, Dlib.Fits w.length ∧ dims < w.length

/-- What a file keeps of a scanner. -/
def ScanFhogPyramid.settled (scanner : ScanFhogPyramid) : ScanFhogPyramid :=
  { scanner.copyConfiguration with
    nuclearNormRegularizationStrength :=
      scanner.nuclearNormRegularizationStrength.unsignZero }

/-- What a file keeps of an overlap test. -/
def TestBoxOverlap.settled (overlap : TestBoxOverlap) :
    TestBoxOverlap where
  iouThresh := overlap.iouThresh.unsignZero
  percentCoveredThresh := overlap.percentCoveredThresh.unsignZero

/-- What a file keeps of a detector: everything but the features and the signs
of zeros. -/
def ObjectDetector.settled (detector : ObjectDetector) : ObjectDetector where
  boxesOverlap := detector.boxesOverlap.settled
  w := detector.w.map (List.map BinaryFloat.unsignZero)
  scanner := detector.scanner.settled

/-- A detector comes back from its file with its thresholds. -/
theorem ObjectDetector.HasThresholds.settled {detector : ObjectDetector}
    (hthresholds : detector.HasThresholds) : detector.settled.HasThresholds := by
  intro weights hweights
  obtain ⟨original, horiginal, rfl⟩ := List.mem_map.mp hweights
  obtain ⟨thresh, hthresh, hfinite⟩ := hthresholds original horiginal
  obtain ⟨dims, hdims, hat⟩ := Option.bind_eq_some_iff.mp hthresh
  refine ⟨thresh.unsignZero, ?_, ?_⟩
  · have hsettled : detector.settled.scanner.numDimensions = some dims := hdims
    rw [ObjectDetector.threshold, hsettled]
    show (original.map BinaryFloat.unsignZero)[dims]? = _
    rw [List.getElem?_map, hat]
    rfl
  · rw [BinaryFloat.isFinite_unsignZero]
    exact hfinite

section Written

variable (writer reader : Platform) (oldFloat : OldFormat CppFloat)
  (oldDouble : OldFormat CppDouble)

/-- An array without memory is read as one. -/
theorem decodes_newArray (fresh : T) (write : T → List UInt8)
    (deserialize : Deserialize T) (old : DlibArray T) :
    Decodes (deserializeArray reader fresh deserialize old)
      (serializeArray writer write DlibArray.new) DlibArray.new := by
  have hnone : Fits 0 := by decide
  apply Decodes.andThen (decodes_size writer reader hnone)
  apply Decodes.andThen (decodes_size writer reader hnone)
  rw [if_neg (lt_irrefl _)]
  have hitems : Decodes (readItems deserialize (List.replicate 0 fresh)) []
      ([] : List T) := decodes_succeed []
  exact hitems.andThen_succeed (DlibArray.mk 0)

/-- The fields of a scanner are read, whatever they were before. -/
theorem decodes_scannerFields {scanner : ScanFhogPyramid} {dims : Nat}
    (hscanner : scanner.Fits dims) (old : ScanFhogPyramid) :
    Decodes (readScannerFields reader oldFloat oldDouble old)
      (scannerFieldBytes writer scanner.copyConfiguration) scanner.settled := by
  have hsize : ∀ {n : Nat}, Fits n → ∀ _old : Nat,
      Decodes (unpackUnsigned reader.unsignedLong)
        (packUnsigned writer.unsignedLong n) n :=
    fun hn _ => decodes_size writer reader hn
  unfold readScannerFields scannerFieldBytes
  refine decodes_readThen (decodes_readField (decodes_newArray writer reader _ _
    _ old.feats)) ?_
  refine decodes_readThen (decodes_readField
    (decodes_packInt hscanner.cellSize hscanner.cellSize)) ?_
  refine decodes_readThen (decodes_readField (hsize hscanner.padding 0)) ?_
  refine decodes_readThen (decodes_readField (hsize hscanner.windowWidth 0)) ?_
  refine decodes_readThen (decodes_readField (hsize hscanner.windowHeight 0)) ?_
  refine decodes_readThen (decodes_readField
    (hsize hscanner.maxPyramidLevels 0)) ?_
  refine decodes_readThen (decodes_readField
    (hsize hscanner.minPyramidLayerWidth 0)) ?_
  refine decodes_readThen (decodes_readField
    (hsize hscanner.minPyramidLayerHeight 0)) ?_
  exact decodes_readField (decodes_serializeFloat stored_binary64 oldDouble _
    scanner.nuclearNormRegularizationStrength)

theorem decodes_serializeOverlap (overlap old : TestBoxOverlap) :
    Decodes (deserializeOverlap oldDouble old) (serializeOverlap overlap)
      overlap.settled := by
  apply Decodes.andThen (decodes_serializeFloat stored_binary64 oldDouble _
    overlap.iouThresh)
  exact (decodes_serializeFloat stored_binary64 oldDouble _
    overlap.percentCoveredThresh).andThen_succeed
      (TestBoxOverlap.mk overlap.iouThresh.unsignZero)

/-- The weights of a filter that fit a scanner are read, and its filter bank is
built. -/
theorem decodes_weights {scanner : ScanFhogPyramid} {dims : Nat}
    (hscanner : scanner.Fits dims) {w : List CppDouble}
    (hw : Fits w.length ∧ dims < w.length) (old : List CppDouble) :
    Decodes (deserializeWeights reader oldDouble scanner.settled old)
      (serializeColumn writer w) (w.map BinaryFloat.unsignZero) := by
  have hholds : scanner.settled.holdsFilters (w.map BinaryFloat.unsignZero) =
      true := by
    have hdims : scanner.settled.numDimensions = some dims :=
      hscanner.numDimensions
    rw [ScanFhogPyramid.holdsFilters, hdims]
    simp only [List.length_map, Bool.and_eq_true, decide_eq_true_eq]
    exact ⟨hscanner.some_dims, hw.2.le⟩
  rw [← List.append_nil (serializeColumn writer w)]
  apply Decodes.andThen
    (decodes_serializeColumn stored_binary64 oldDouble writer reader hw.1 old)
  rw [if_pos hholds]
  exact decodes_succeed _

/-- The filters of a detector are read behind its scanner. -/
theorem decodes_filters {detector : ObjectDetector} {dims : Nat}
    (hdetector : detector.Fits dims) {old : ObjectDetector}
    (hscanner : old.scanner = detector.scanner.settled) :
    Decodes (readAllFilters reader oldDouble old)
      (packUnsigned writer.unsignedLong detector.w.length ++
        detector.w.flatMap (serializeColumn writer))
      { old with w := detector.w.map (List.map BinaryFloat.unsignZero) } := by
  apply Decodes.andThen (decodes_size writer reader hdetector.filters)
  apply decodes_readField
  apply decodes_readItems (length_resize _ _ _)
  intro w hw previous
  rw [hscanner]
  exact decodes_weights writer reader oldDouble hdetector.scanner
    (hdetector.filter w hw) previous

/-- A scanner is read as far as its number of dimensions, which has to be the one
of its windows. -/
theorem decodes_scannerBytes {scanner : ScanFhogPyramid} {dims : Nat}
    (hscanner : scanner.Fits dims) (old : ScanFhogPyramid) :
    Decodes (deserializeScanner reader oldFloat oldDouble old)
      (scannerBytes writer scanner.copyConfiguration dims) scanner.settled := by
  have hversion : IntType.int.Holds 1 := IntType.int_holds_of_small (by decide)
  have hdims : scanner.settled.numDimensions = some dims := hscanner.numDimensions
  have hholds := hscanner.fits_dims.holds_natCast
  apply Decodes.andThen (decodes_packInt hversion hversion)
  rw [if_neg (by decide)]
  apply decodes_readThen
    (decodes_scannerFields writer reader oldFloat oldDouble hscanner old)
  rw [← List.append_nil (packInt _ _)]
  apply Decodes.andThen (decodes_packInt (hholds writer) (hholds reader))
  simp only [hdims]
  rw [if_neg (not_not.mpr rfl)]
  exact decodes_succeed _

theorem serializeDetector_eq {detector : ObjectDetector} {dims : Nat}
    (hdetector : detector.Fits dims) :
    serializeDetector writer detector =
      some (packInt .int 2 ++
        (scannerBytes writer detector.scanner.copyConfiguration dims ++
          (serializeOverlap detector.boxesOverlap ++
            (packUnsigned writer.unsignedLong detector.w.length ++
              detector.w.flatMap (serializeColumn writer))))) := by
  have hdims : detector.scanner.copyConfiguration.numDimensions = some dims :=
    hdetector.scanner.numDimensions
  rw [serializeDetector, serializeScanner, hdims]
  rfl

/-- A detector written on one platform is read on any other one, into any object,
as it was but for the signs of zeros; and a stream that ends anywhere inside it
is refused. -/
theorem decodes_serializeDetector {detector : ObjectDetector} {dims : Nat}
    (hdetector : detector.Fits dims) {bytes : List UInt8}
    (hbytes : serializeDetector writer detector = some bytes)
    (old : ObjectDetector) :
    Decodes (deserializeDetector reader oldFloat oldDouble old) bytes
      detector.settled := by
  rw [serializeDetector_eq writer hdetector] at hbytes
  obtain rfl := Option.some.inj hbytes
  have hversion : IntType.int.Holds 2 := IntType.int_holds_of_small (by decide)
  apply Decodes.andThen (decodes_packInt hversion hversion)
  rw [if_neg (by decide), if_pos rfl]
  apply decodes_readThen (decodes_readField (decodes_scannerBytes writer reader
    oldFloat oldDouble hdetector.scanner old.scanner))
  apply decodes_readThen (decodes_readField (decodes_serializeOverlap oldDouble
    detector.boxesOverlap old.boxesOverlap))
  exact decodes_filters writer reader oldDouble hdetector rfl

/-- A scanner whose file says another number of dimensions is refused. -/
theorem refuses_scannerBytes {scanner : ScanFhogPyramid} {dims : Nat}
    (hscanner : scanner.Fits dims) {claimed : Int} (hne : claimed ≠ dims)
    (hwriter : writer.long.Holds claimed) (hreader : reader.long.Holds claimed)
    (old : ScanFhogPyramid) :
    Refuses (deserializeScanner reader oldFloat oldDouble old)
      (scannerBytes writer scanner.copyConfiguration claimed)
      ⟨dimensionsError, scanner.settled⟩ := by
  have hversion : IntType.int.Holds 1 := IntType.int_holds_of_small (by decide)
  have hdims : scanner.settled.numDimensions = some dims := hscanner.numDimensions
  apply Decodes.andThen_refuses (decodes_packInt hversion hversion)
  rw [if_neg (by decide)]
  apply Decodes.andThen_refuses
    (decodes_scannerFields writer reader oldFloat oldDouble hscanner old)
  rw [← List.append_nil (packInt _ _)]
  apply Decodes.andThen_refuses (decodes_packInt hwriter hreader)
  simp only [hdims]
  rw [if_pos hne.symm]
  exact fun _ => rfl

/-- And so is a detector with this scanner, whatever else its file holds. -/
theorem refuses_detectorBytes {scanner : ScanFhogPyramid} {dims : Nat}
    (hscanner : scanner.Fits dims) {claimed : Int} (hne : claimed ≠ dims)
    (hwriter : writer.long.Holds claimed) (hreader : reader.long.Holds claimed)
    (old : ObjectDetector) :
    Refuses (deserializeDetector reader oldFloat oldDouble old)
      (packInt .int 2 ++ scannerBytes writer scanner.copyConfiguration claimed)
      ⟨dimensionsError, { old with scanner := scanner.settled }⟩ := by
  have hversion : IntType.int.Holds 2 := IntType.int_holds_of_small (by decide)
  apply Decodes.andThen_refuses (decodes_packInt hversion hversion)
  rw [if_neg (by decide), if_pos rfl]
  have hfield : Refuses
      (readField ObjectDetector.scanner (fun item scanner => { item with scanner })
        (deserializeScanner reader oldFloat oldDouble) old)
      (scannerBytes writer scanner.copyConfiguration claimed)
      ⟨dimensionsError, { old with scanner := scanner.settled }⟩ :=
    Refuses.andThen (refuses_scannerBytes writer reader oldFloat oldDouble
      hscanner hne hwriter hreader old.scanner)
  exact Refuses.andThen hfield

end Written

/-! ## One file on every platform -/

section Platforms

variable (writer other : Platform)

theorem scannerBytes_congr {scanner : ScanFhogPyramid} {dims : Nat}
    (hscanner : scanner.Fits dims) :
    scannerBytes other scanner.settled.copyConfiguration dims =
      scannerBytes writer scanner.copyConfiguration dims := by
  have hholds := hscanner.fits_dims.holds_natCast
  have hdims : packInt other.long dims = packInt writer.long dims :=
    packInt_congr (hholds other) (hholds writer)
  have hfeats : ∀ platform : Platform, serializeArray platform
      (serializeArray platform (serializeArray2d platform)) DlibArray.new =
        packUnsigned platform.unsignedLong 0 ++
          (packUnsigned platform.unsignedLong 0 ++ []) := fun _ => rfl
  have hnone : Fits 0 := by decide
  simp only [scannerBytes, scannerFieldBytes, ScanFhogPyramid.settled,
    ScanFhogPyramid.copyConfiguration, hfeats, hdims, serializeFloat_unsignZero,
    packUnsigned_of_fits writer other hnone,
    packUnsigned_of_fits writer other hscanner.padding,
    packUnsigned_of_fits writer other hscanner.windowWidth,
    packUnsigned_of_fits writer other hscanner.windowHeight,
    packUnsigned_of_fits writer other hscanner.maxPyramidLevels,
    packUnsigned_of_fits writer other hscanner.minPyramidLayerWidth,
    packUnsigned_of_fits writer other hscanner.minPyramidLayerHeight]

theorem ObjectDetector.Fits.settled {detector : ObjectDetector} {dims : Nat}
    (hdetector : detector.Fits dims) : detector.settled.Fits dims where
  scanner :=
    { numDimensions := hdetector.scanner.numDimensions
      some_dims := hdetector.scanner.some_dims
      fits_dims := hdetector.scanner.fits_dims
      cellSize := hdetector.scanner.cellSize
      padding := hdetector.scanner.padding
      windowWidth := hdetector.scanner.windowWidth
      windowHeight := hdetector.scanner.windowHeight
      maxPyramidLevels := hdetector.scanner.maxPyramidLevels
      minPyramidLayerWidth := hdetector.scanner.minPyramidLayerWidth
      minPyramidLayerHeight := hdetector.scanner.minPyramidLayerHeight }
  filters := by
    rw [ObjectDetector.settled, List.length_map]
    exact hdetector.filters
  filter := by
    intro w hw
    obtain ⟨weights, hweights, rfl⟩ := List.mem_map.mp hw
    rw [List.length_map]
    exact hdetector.filter weights hweights

/-- The file says neither which platform wrote it nor which zeros were
negative. -/
theorem serializeDetector_congr {detector : ObjectDetector} {dims : Nat}
    (hdetector : detector.Fits dims) :
    serializeDetector other detector.settled =
      serializeDetector writer detector := by
  have hfilters : packUnsigned other.unsignedLong detector.settled.w.length ++
        detector.settled.w.flatMap (serializeColumn other) =
      packUnsigned writer.unsignedLong detector.w.length ++
        detector.w.flatMap (serializeColumn writer) :=
    serializeVector_congr writer other hdetector.filters fun w hw =>
      serializeColumn_congr writer other (hdetector.filter w hw).1
  have hoverlap : serializeOverlap detector.settled.boxesOverlap =
      serializeOverlap detector.boxesOverlap := by
    simp only [serializeOverlap, ObjectDetector.settled, TestBoxOverlap.settled,
      serializeFloat_unsignZero]
  have hscanner : scannerBytes other
        detector.settled.scanner.copyConfiguration dims =
      scannerBytes writer detector.scanner.copyConfiguration dims :=
    scannerBytes_congr writer other hdetector.scanner
  rw [serializeDetector_eq other hdetector.settled,
    serializeDetector_eq writer hdetector, hfilters, hoverlap, hscanner]

end Platforms

theorem oneFilter_fits : oneFilter.Fits 31 where
  scanner := by
    constructor
    case cellSize => exact IntType.int_holds_of_small (by decide)
    all_goals decide
  filters := by decide
  filter := by
    intro w hw
    obtain rfl := List.mem_singleton.mp hw
    rw [List.length_cons, List.length_replicate]
    decide

end Dlib
end ImportDlibDemo
