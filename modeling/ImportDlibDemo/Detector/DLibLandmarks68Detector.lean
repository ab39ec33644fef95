import ImportDlibDemo.Android.Graphics
import ImportDlibDemo.Data.DLibFace68
import ImportDlibDemo.NativeLib.EntryPoints

/-!
# `DLibLandmarks68Detector`

The Java side of the native library.  Rectangles go into it and faces come out
as protobuf messages; the generated code that writes and reads them is the
argument `Protobuf`, and `float` is binary32.
-/

namespace ImportDlibDemo
namespace Detector

open Library
open NativeLib

/-- The type `float`. -/
abbrev Binary32 := BinaryFloat binary32

/-- The generated code of `messages.proto`: `toByteArray` and `parseFrom` of a
`FaceList`, and of a `RectFList` (whose parser in C++ fills the message as far as
it gets). -/
structure Protobuf where
  Bytes : Type
  faceListBytes : List (Face Binary32) → Bytes
  parseFaceList : Bytes → Option (List (Face Binary32))
  rectFListBytes : List (RectF Binary32) → Bytes
  parseRectFList : Bytes → List (RectF Binary32)

/-- The message that was written is read.  A field that is zero is not written,
and one that is absent is read as `0`. -/
structure Protobuf.DecodesEncoded (proto : Protobuf) : Prop where
  faceList : ∀ faces, proto.parseFaceList (proto.faceListBytes faces) =
    some (faces.map (Face.map BinaryFloat.unsignZero))
  rectFList : ∀ rects, proto.parseRectFList (proto.rectFListBytes rects) =
    rects.map (RectF.map BinaryFloat.unsignZero)

/-- How a call of the detector ends. -/
inductive FindEnd
  | returned (faces : List (Data.DLibFace68 Binary32))
  | runtimeException (messages : List String)
  | nullPointerException
  | invalidProtocolBufferException
  | undefined
  deriving DecidableEq

/-- What becomes of a native call: a pending exception is thrown when it
returns, otherwise its bytes are parsed and converted. -/
def convertRawData (proto : Protobuf) (run : DetectionRun Binary32) : FindEnd :=
  if run.undefined then .undefined
  else if run.thrown ≠ [] then .runtimeException run.thrown
  else
    match run.result.map proto.faceListBytes with
    | none => .nullPointerException
    | some rawData =>
        match proto.parseFaceList rawData with
        | none => .invalidProtocolBufferException
        | some rawFaces => .returned (rawFaces.map Data.DLibFace68.ofMessage)

/-- The message of a bound; its `int`s become `float`s. -/
def msgBound (bound : Android.Rect) : RectF Binary32 where
  left := CFloat.ofLong bound.left
  top := CFloat.ofLong bound.top
  right := CFloat.ofLong bound.right
  bottom := CFloat.ofLong bound.bottom

/-- `findFacesAndLandmarks`. -/
def findFacesAndLandmarks (proto : Protobuf) (dlib : DlibRuntime Binary32)
    (globals : Globals Binary32) (bitmap : Bitmap) : FindEnd :=
  convertRawData proto (detectFacesAndLandmarks dlib globals bitmap)

/-- `findLandmarksFromFaces`. -/
def findLandmarksFromFaces (proto : Protobuf) (dlib : DlibRuntime Binary32)
    (globals : Globals Binary32) (bitmap : Bitmap)
    (faceBounds : List Android.Rect) : FindEnd :=
  let faceRects := proto.rectFListBytes (faceBounds.map msgBound)
  convertRawData proto
    (detectLandmarksFromFaces dlib globals bitmap
      (proto.parseRectFList faceRects))

end Detector
end ImportDlibDemo
