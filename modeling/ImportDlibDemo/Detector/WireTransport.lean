import ImportDlibDemo.Data.GeneratedMessages
import ImportDlibDemo.Detector.DetectionPaths

/-!
# Faces and rectangles on the wire

The generated code of both languages in the place of the `Protobuf` of the
detector.  As long as the sizes of the messages are `int`s, what one side writes
the other side reads, up to the signs of zeros, and so the one-step and the
two-step detection agree byte for byte.
-/

namespace ImportDlibDemo
namespace Detector

open Dlib
open Library
open NativeLib
open Proto

/-- The message of a face, whose bound the native code always sets. -/
def faceFields (face : Face WireFloat) : FaceFields where
  bound_ := some face.bound
  landmarks_ := face.landmarks

/-- What the getters of a message say. -/
def rawFace (message : FaceFields) : Face WireFloat where
  bound := message.bound
  landmarks := message.landmarks_

/-- The array the entry points make of their faces: a buffer of `ByteSize`
bytes, filled by `SerializeToArray`.  Nothing if the size is no `int`, or if the
buffer is not filled. -/
def outBytes (faces : List FaceFields) : Option (List UInt8) :=
  let outSize := NativeLib.FaceList.byteSizeLong faces
  if outSize < 2 ^ 31 ∧ (NativeLib.FaceList.serialize faces).length = outSize then
    some (NativeLib.FaceList.serialize faces)
  else none

/-- The generated code of `messages.proto`; `ParseFromArray` keeps the message
as far as it was read. -/
def wireProtobuf (input : CodedInputStream)
    (runtime : Data.Messages.ProtobufRuntime) : Protobuf where
  Bytes := Option (List UInt8)
  faceListBytes faces := outBytes (faces.map faceFields)
  parseFaceList rawData :=
    (rawData.bind (Data.Messages.FaceList.parseFrom runtime)).map (List.map rawFace)
  rectFListBytes rects := Data.Messages.RectFList.toByteArray runtime rects
  parseRectFList faceRects :=
    (NativeLib.RectFList.mergePartialFromCodedStream input []
      (faceRects.getD [])).message

theorem mergeFloat_unset (value : WireFloat) :
    mergeFloat unsetFloat value = value.unsignZero := by
  rw [BinaryFloat.unsignZero_eq, mergeFloat, unsetFloat]
  cases value.isZero <;> rfl

theorem RectF.mergeFrom_default (rect : NativeLib.RectF WireFloat) :
    RectF.defaultInstance.mergeFrom rect = rect.map BinaryFloat.unsignZero := by
  simp only [RectF.mergeFrom, RectF.defaultInstance, mergeFloat_unset, RectF.map]

theorem rawFace_mergeFrom_default (face : Face WireFloat) :
    rawFace (FaceFields.defaultInstance.mergeFrom (faceFields face)) =
      face.map BinaryFloat.unsignZero := by
  have hbound := RectF.mergeFrom_default face.bound
  have hlandmark : ∀ landmark : Landmark WireFloat,
      Landmark.defaultInstance.mergeFrom landmark =
        landmark.map BinaryFloat.unsignZero := by
    intro landmark
    simp only [Landmark.mergeFrom, Landmark.defaultInstance, mergeFloat_unset,
      Landmark.map]
  simp only [rawFace, FaceFields.mergeFrom, faceFields, FaceFields.bound,
    FaceFields.defaultInstance, Option.getD_none, Option.getD_some, hbound,
    List.nil_append, Face.map]
  congr 1
  exact List.map_congr_left fun landmark _ => hlandmark landmark

/-- The rectangle that arrives for a bound: on the way its sides are `float`s. -/
def sentBound (bound : Android.Rect) : Rectangle :=
  readBound ((msgBound bound).map BinaryFloat.unsignZero)

/-- The buffer is filled exactly. -/
theorem outBytes_eq {faces : List FaceFields}
    (hsmall : NativeLib.FaceList.byteSizeLong faces < 2 ^ 31) :
    outBytes faces = some (NativeLib.FaceList.serialize faces) :=
  if_pos ⟨hsmall, NativeLib.FaceList.length_serialize faces⟩

section Transport

variable {input : CodedInputStream} {runtime : Data.Messages.ProtobufRuntime}

theorem parseFrom_serialize (hruntime : runtime.Documented)
    {faces : List (Face Binary32)}
    (hsmall : NativeLib.FaceList.byteSizeLong (faces.map faceFields) < 2 ^ 31) :
    (Data.Messages.FaceList.parseFrom runtime
        (NativeLib.FaceList.serialize (faces.map faceFields))).map
          (List.map rawFace) =
      some (faces.map (Face.map BinaryFloat.unsignZero)) := by
  rw [Data.Messages.FaceList.parse_serialize hruntime
    (NativeLib.FaceList.byteSizeLong_lt hsmall), Option.map_some]
  simp only [List.map_map]
  congr 1
  exact List.map_congr_left fun face _ => rawFace_mergeFrom_default face

/-- From the native code to Java. -/
theorem parseFaceList_faceListBytes (hruntime : runtime.Documented)
    {faces : List (Face Binary32)}
    (hsmall : NativeLib.FaceList.byteSizeLong (faces.map faceFields) < 2 ^ 31) :
    (wireProtobuf input runtime).parseFaceList
        ((wireProtobuf input runtime).faceListBytes faces) =
      some (faces.map (Face.map BinaryFloat.unsignZero)) := by
  show ((outBytes (faces.map faceFields)).bind _).map _ = _
  rw [outBytes_eq hsmall, Option.bind_some]
  exact parseFrom_serialize hruntime hsmall

theorem merge_serialize (hinput : input.Documented) (rects : List (RectF Binary32)) :
    NativeLib.RectFList.mergePartialFromCodedStream input []
        (NativeLib.RectFList.serialize rects) =
      .success (rects.map (RectF.map BinaryFloat.unsignZero)) true := by
  rw [NativeLib.RectFList.mergePartialFromCodedStream,
    run_of_acts hinput (NativeLib.RectFList.acts_serialize hinput rects)]
  congr 1
  exact List.map_congr_left fun rect _ => RectF.mergeFrom_default rect

/-- From Java to the native code. -/
theorem parseRectFList_rectFListBytes (hinput : input.Documented)
    (hruntime : runtime.Documented) {rects : List (RectF Binary32)}
    (hsmall : NativeLib.RectFList.byteSizeLong rects < 2 ^ 31) :
    (wireProtobuf input runtime).parseRectFList
        ((wireProtobuf input runtime).rectFListBytes rects) =
      rects.map (RectF.map BinaryFloat.unsignZero) := by
  have hbytes : (wireProtobuf input runtime).rectFListBytes rects =
      some (NativeLib.RectFList.serialize rects) :=
    Data.Messages.RectFList.toByteArray_eq hruntime hsmall
  rw [hbytes]
  show (NativeLib.RectFList.mergePartialFromCodedStream input [] _).message = _
  rw [Option.getD_some, merge_serialize hinput]
  rfl

/-- The faces of the native code arrive in Java: the array is as long as
`ByteSizeLong` says, and Java reads the faces from it. -/
theorem faces_arrive (hruntime : runtime.Documented) {faces : List (Face Binary32)}
    (hsmall : NativeLib.FaceList.byteSizeLong (faces.map faceFields) < 2 ^ 31) :
    ∃ bytes, outBytes (faces.map faceFields) = some bytes ∧
      bytes.length = NativeLib.FaceList.byteSizeLong (faces.map faceFields) ∧
      (Data.Messages.FaceList.parseFrom runtime bytes).map (List.map rawFace) =
        some (faces.map (Face.map BinaryFloat.unsignZero)) := by
  exact ⟨_, outBytes_eq hsmall, NativeLib.FaceList.length_serialize _,
    parseFrom_serialize hruntime hsmall⟩

/-- The rectangles of Java arrive in the native code. -/
theorem rects_arrive (hinput : input.Documented) (hruntime : runtime.Documented)
    {rects : List (RectF Binary32)}
    (hsmall : NativeLib.RectFList.byteSizeLong rects < 2 ^ 31) :
    ∃ bytes, Data.Messages.RectFList.toByteArray runtime rects = some bytes ∧
      bytes.length = NativeLib.RectFList.byteSizeLong rects ∧
      NativeLib.RectFList.mergePartialFromCodedStream input [] bytes =
        .success (rects.map (RectF.map BinaryFloat.unsignZero)) true := by
  exact ⟨_, Data.Messages.RectFList.toByteArray_eq hruntime hsmall,
    NativeLib.RectFList.length_serialize rects, merge_serialize hinput rects⟩

/-- The bytes of two faces behind each other are read as the second merged into
the first, as `MergeFrom` merges them. -/
theorem merge_append (hinput : input.Documented)
    (message first second : FaceFields) :
    FaceFields.mergePartialFromCodedStream input message
        (first.serialize ++ second.serialize) =
      .success ((message.mergeFrom first).mergeFrom second) true :=
  run_of_acts hinput
    (StreamLoop.Acts.append (FaceFields.acts_serialize hinput first)
      (FaceFields.acts_serialize hinput second)) message

/-! ## Detection over the wire -/

section Paths

variable {dlib : DlibRuntime Binary32} {globals : Globals Binary32}
  {bitmap : Bitmap}

/-- Behind a clean conversion the caller gets the faces the entry point packs. -/
theorem convertRawData_wire (hruntime : runtime.Documented)
    (hundefined : (convertBitmapToArray2d bitmap Array2d.new).undefined = false)
    (hthrown : (convertBitmapToArray2d bitmap Array2d.new).thrown = [])
    (body : Array2d RgbPixel → List DetectorRun × List (Face Binary32))
    (hsmall : NativeLib.FaceList.byteSizeLong
      ((body (convertBitmapToArray2d bitmap Array2d.new).out).2.map faceFields) <
        2 ^ 31) :
    convertRawData (wireProtobuf input runtime) (convertThen bitmap body) =
      .returned ((body (convertBitmapToArray2d bitmap Array2d.new).out).2.map
        fun face => Data.DLibFace68.ofMessage (face.map BinaryFloat.unsignZero)) := by
  simp [convertRawData, convertThen, hundefined, hthrown,
    parseFaceList_faceListBytes hruntime hsmall]

/-- One step, over the wire. -/
theorem findFacesAndLandmarks_wire (hruntime : runtime.Documented)
    (hundefined : (convertBitmapToArray2d bitmap Array2d.new).undefined = false)
    (hthrown : (convertBitmapToArray2d bitmap Array2d.new).thrown = [])
    (hface : isFaceDetectorReady globals = true)
    (hlandmarks : isFaceLandmarksDetectorReady globals = true)
    (hsmall : NativeLib.FaceList.byteSizeLong
      (((detectedRects dlib globals bitmap).map (faceMessage dlib globals
        (convertBitmapToArray2d bitmap Array2d.new).out)).map faceFields) < 2 ^ 31) :
    findFacesAndLandmarks (wireProtobuf input runtime) dlib globals bitmap =
      .returned ((detectedRects dlib globals bitmap).map
        (faceOf dlib globals bitmap)) := by
  have hdetectors : ¬ globals.sFaceDetector.numDetectors = 0 := by
    have hpos := of_decide_eq_true hface
    omega
  have hparts : ¬ globals.sFaceLandmarksDetector.numParts = 0 := by
    have hpos := of_decide_eq_true hlandmarks
    omega
  rw [findFacesAndLandmarks, detectFacesAndLandmarks, if_neg hdetectors,
    if_neg hparts, convertRawData_wire hruntime hundefined hthrown _ hsmall]
  exact returned_faceMessages (detectedRects dlib globals bitmap)

/-- The faces of bounds that go over the wire to the native code, and come
back. -/
theorem findLandmarksFromFaces_sent (hinput : input.Documented)
    (hruntime : runtime.Documented)
    (hundefined : (convertBitmapToArray2d bitmap Array2d.new).undefined = false)
    (hthrown : (convertBitmapToArray2d bitmap Array2d.new).thrown = [])
    {bounds : List Android.Rect}
    (hrects : NativeLib.RectFList.byteSizeLong (bounds.map msgBound) < 2 ^ 31)
    (hsmall : NativeLib.FaceList.byteSizeLong
      (((bounds.map sentBound).map (faceMessage dlib globals
        (convertBitmapToArray2d bitmap Array2d.new).out)).map faceFields) < 2 ^ 31) :
    findLandmarksFromFaces (wireProtobuf input runtime) dlib globals bitmap bounds =
      .returned ((bounds.map sentBound).map (faceOf dlib globals bitmap)) := by
  have hbounds : ((bounds.map msgBound).map
      (RectF.map BinaryFloat.unsignZero)).map readBound = bounds.map sentBound := by
    rw [List.map_map, List.map_map]
    rfl
  rw [findLandmarksFromFaces, parseRectFList_rectFListBytes hinput hruntime hrects,
    detectLandmarksFromFaces]
  rw [← hbounds] at hsmall ⊢
  refine (convertRawData_wire hruntime hundefined hthrown _ hsmall).trans ?_
  exact returned_faceMessages _

/-- Two steps, over the wire in both directions: rectangles that are exact as
`float`s arrive as they are. -/
theorem findLandmarksFromFaces_wire (hinput : input.Documented)
    (hruntime : runtime.Documented)
    (hundefined : (convertBitmapToArray2d bitmap Array2d.new).undefined = false)
    (hthrown : (convertBitmapToArray2d bitmap Array2d.new).thrown = [])
    {rects : List Rectangle} (hexact : ∀ rect ∈ rects, ExactInFloat rect)
    (hrects : NativeLib.RectFList.byteSizeLong
      ((rects.map toRect).map msgBound) < 2 ^ 31)
    (hsmall : NativeLib.FaceList.byteSizeLong
      ((rects.map (faceMessage dlib globals
        (convertBitmapToArray2d bitmap Array2d.new).out)).map faceFields) < 2 ^ 31) :
    findLandmarksFromFaces (wireProtobuf input runtime) dlib globals bitmap
        (rects.map toRect) =
      .returned (rects.map (faceOf dlib globals bitmap)) := by
  have hsent : (rects.map toRect).map sentBound = rects := by
    have hbounds := map_readBound_message hexact
    rwa [List.map_map, List.map_map] at hbounds
  have hfaces := findLandmarksFromFaces_sent hinput hruntime hundefined hthrown
    hrects (hsent.symm ▸ hsmall)
  rwa [hsent] at hfaces

/-- On a bitmap that converts without an error, with both detectors prepared,
detection in one step and in two return the same faces when everything between
the languages goes over the wire and both messages have sizes that an `int`
holds. -/
theorem wire_paths_agree (hinput : input.Documented)
    (hruntime : runtime.Documented)
    (hundefined : (convertBitmapToArray2d bitmap Array2d.new).undefined = false)
    (hthrown : (convertBitmapToArray2d bitmap Array2d.new).thrown = [])
    (hface : isFaceDetectorReady globals = true)
    (hlandmarks : isFaceLandmarksDetectorReady globals = true)
    (hexact : ∀ rect ∈ detectedRects dlib globals bitmap, ExactInFloat rect)
    (hrects : NativeLib.RectFList.byteSizeLong
      (((detectedRects dlib globals bitmap).map toRect).map msgBound) < 2 ^ 31)
    (hfaces : NativeLib.FaceList.byteSizeLong
      (((detectedRects dlib globals bitmap).map (faceMessage dlib globals
        (convertBitmapToArray2d bitmap Array2d.new).out)).map faceFields) < 2 ^ 31) :
    let rects := detectedRects dlib globals bitmap
    let faces := rects.map (faceOf dlib globals bitmap)
    findFacesAndLandmarks (wireProtobuf input runtime) dlib globals bitmap =
        .returned faces ∧
      findLandmarksFromFaces (wireProtobuf input runtime) dlib globals bitmap
          (rects.map toRect) = .returned faces :=
  ⟨findFacesAndLandmarks_wire hruntime hundefined hthrown hface hlandmarks hfaces,
    findLandmarksFromFaces_wire hinput hruntime hundefined hthrown hexact hrects
      hfaces⟩

end Paths

end Transport

/-- Two faces in the two kinds of sizes: one landmark, and none. -/
def edgeFaces : List (Face Binary32) :=
  [{ bound := (msgBound ⟨-3, 0, 7, 10⟩), landmarks := [⟨.ofInt 1, .ofInt 0⟩] },
    { bound := msgBound ⟨0, 0, 0, 0⟩, landmarks := [] }]

theorem edgeFaces_arrive :
    ∃ bytes, outBytes (edgeFaces.map faceFields) = some bytes ∧
      bytes.length = NativeLib.FaceList.byteSizeLong (edgeFaces.map faceFields) ∧
      (Data.Messages.FaceList.parseFrom Data.Messages.plainRuntime bytes).map
          (List.map rawFace) =
        some (edgeFaces.map (Face.map BinaryFloat.unsignZero)) := by
  apply faces_arrive Data.Messages.documented_plainRuntime
  have hle : NativeLib.FaceList.byteSizeLong (edgeFaces.map faceFields) ≤ 1120 * 2 :=
    NativeLib.FaceList.byteSizeLong_le (by simp [edgeFaces, faceFields])
  omega

theorem edgeRects_arrive :
    ∃ bytes, Data.Messages.RectFList.toByteArray Data.Messages.plainRuntime
        ((edgeRects.map toRect).map msgBound) = some bytes ∧
      bytes.length =
        NativeLib.RectFList.byteSizeLong ((edgeRects.map toRect).map msgBound) ∧
      NativeLib.RectFList.mergePartialFromCodedStream flatStream [] bytes =
        .success (((edgeRects.map toRect).map msgBound).map
          (RectF.map BinaryFloat.unsignZero)) true := by
  apply rects_arrive documented_flatStream Data.Messages.documented_plainRuntime
  have hle : NativeLib.RectFList.byteSizeLong
      ((edgeRects.map toRect).map msgBound) ≤ 26 * 2 :=
    NativeLib.RectFList.byteSizeLong_le _
  omega

/-- The left and right side of the second bound prevail, its zeros do not. -/
theorem edgeFaces_merge_append :
    let first : FaceFields :=
      { bound_ := some (msgBound ⟨1, 2, 3, 4⟩)
        landmarks_ := [⟨.ofInt 1, .ofInt 0⟩] }
    let second : FaceFields :=
      { bound_ := some (msgBound ⟨-3, 0, 7, 0⟩)
        landmarks_ := [⟨.ofInt 2, .ofInt 3⟩] }
    FaceFields.mergePartialFromCodedStream flatStream FaceFields.defaultInstance
        (first.serialize ++ second.serialize) =
      .success ((FaceFields.defaultInstance.mergeFrom first).mergeFrom second)
        true :=
  merge_append documented_flatStream _ _ _

theorem edge_wire_paths_agree :
    let protobuf := wireProtobuf flatStream Data.Messages.plainRuntime
    let faces := edgeRects.map (faceOf edgeDlib edgeGlobals greenPixel.toBitmap)
    findFacesAndLandmarks protobuf edgeDlib edgeGlobals greenPixel.toBitmap =
        .returned faces ∧
      findLandmarksFromFaces protobuf edgeDlib edgeGlobals greenPixel.toBitmap
          (edgeRects.map toRect) = .returned faces := by
  have hexact : ∀ rect ∈ edgeRects, ExactInFloat rect := by
    simp only [edgeRects, List.forall_mem_cons, List.not_mem_nil,
      IsEmpty.forall_iff, implies_true, and_true]
    constructor
    · constructor <;> norm_num
    · constructor <;> norm_num
  have hrects : NativeLib.RectFList.byteSizeLong
      ((edgeRects.map toRect).map msgBound) ≤ 26 * 2 :=
    NativeLib.RectFList.byteSizeLong_le _
  have hfaces : NativeLib.FaceList.byteSizeLong
      ((edgeRects.map (faceMessage edgeDlib edgeGlobals
        (convertBitmapToArray2d greenPixel.toBitmap Array2d.new).out)).map
          faceFields) ≤ 1120 * 2 :=
    NativeLib.FaceList.byteSizeLong_le (by
      simp [edgeRects, faceMessage, faceFields, edgeDlib, edgeGlobals,
        ShapePredictor.numParts])
  exact wire_paths_agree documented_flatStream
    Data.Messages.documented_plainRuntime (by decide) (by decide) rfl rfl hexact
    (hrects.trans_lt (by norm_num)) (hfaces.trans_lt (by norm_num))

end Detector
end ImportDlibDemo
