import ImportDlibDemo.NativeLib.GeneratedMessages

/-!
# The generated Java code of the messages

Java parses a `FaceList` and writes a `RectFList`.  Its runtime library is the
argument `ProtobufRuntime`; `Documented` says what the wire format makes of it.
Then Java reads from the bytes of a message what C++ reads from them
(`parse_faceList`), and writes the bytes that C++ would write
(`toByteArray_eq`).
-/

namespace ImportDlibDemo
namespace Data
namespace Messages

open Library
open Library.Base128
open Library.LittleEndianWord
open Library.StreamLoop
open NativeLib
open Proto

/-- A parser: what merging the bytes into a default instance makes of it, and
the last tag that was read; nothing when it throws. -/
abbrev Parser (N : Type) := List UInt8 → Option (N × Nat)

/-- What the generated code uses of `com.google.protobuf`.  What reads may
throw; it never lengthens the stream, and a tag is not read from nothing. -/
structure ProtobufRuntime where
  readTag : List UInt8 → Option (Nat × List UInt8)
  readTag_shorter : ∀ {bytes tag rest}, readTag bytes = some (tag, rest) →
    tag ≠ 0 → rest.length < bytes.length
  readFloat : List UInt8 → Option (WireFloat × List UInt8)
  readFloat_le : ∀ {bytes value rest}, readFloat bytes = some (value, rest) →
    rest.length ≤ bytes.length
  readMessage : {N : Type} → Parser N → List UInt8 → Option (N × List UInt8)
  readMessage_le : ∀ {N : Type} {parser : Parser N} {bytes item rest},
    readMessage parser bytes = some (item, rest) → rest.length ≤ bytes.length
  parseUnknownField : Nat → List UInt8 → Option (Bool × List UInt8)
  parseUnknownField_le : ∀ {tag bytes more rest},
    parseUnknownField tag bytes = some (more, rest) → rest.length ≤ bytes.length
  parseFrom : {N : Type} → Parser N → List UInt8 → Option N
  visitFloat : Bool → WireFloat → Bool → WireFloat → WireFloat
  computeFloatSize : Nat → WireFloat → Nat
  computeMessageSize : Nat → Nat → Nat
  writeFloat : Nat → WireFloat → List UInt8
  writeMessage : Nat → Nat → List UInt8 → List UInt8
  toByteArray : Nat → List UInt8 → Option (List UInt8)

/-- The wire format: tags of one byte, `float`s as their bits, messages behind
their sizes, and sizes that an `int` holds. -/
structure ProtobufRuntime.Documented (runtime : ProtobufRuntime) : Prop where
  tagAtEnd : runtime.readTag [] = some (0, [])
  tag : ∀ (tag : Nat) rest, 8 ≤ tag → tag < 0x80 →
    runtime.readTag (UInt8.ofNat tag :: rest) = some (tag, rest)
  float : ∀ value rest,
    runtime.readFloat (bytesOf 4 (BinaryFloat.toBits value) ++ rest) =
      some (value, rest)
  message : ∀ {N : Type} (parser : Parser N) body item rest,
    parser body = some (item, 0) → body.length < 2 ^ 31 →
      runtime.readMessage parser (varintOf body.length ++ body ++ rest) =
        some (item, rest)
  parsed : ∀ {N : Type} (parser : Parser N) bytes item,
    parser bytes = some (item, 0) → runtime.parseFrom parser bytes = some item
  floatSize : ∀ fieldNumber value, fieldNumber < 16 →
    runtime.computeFloatSize fieldNumber value = 1 + 4
  messageSize : ∀ fieldNumber size, fieldNumber < 16 → size < 2 ^ 31 →
    runtime.computeMessageSize fieldNumber size = 1 + (varintOf size).length + size
  writtenFloat : ∀ fieldNumber value, fieldNumber < 16 →
    runtime.writeFloat fieldNumber value =
      UInt8.ofNat (8 * fieldNumber + 5) :: bytesOf 4 (BinaryFloat.toBits value)
  writtenMessage : ∀ fieldNumber size body, fieldNumber < 16 → size < 2 ^ 31 →
    runtime.writeMessage fieldNumber size body =
      UInt8.ofNat (8 * fieldNumber + 2) :: (varintOf size ++ body)
  array : ∀ bytes : List UInt8, bytes.length < 2 ^ 31 →
    runtime.toByteArray bytes.length bytes = some bytes

/-! ## Parsing -/

/-- The code of one case of a parse loop; nothing when it throws. -/
structure FieldReader (M : Type) where
  read : M → List UInt8 → Option (M × List UInt8)
  notLonger : ∀ {message bytes next rest},
    read message bytes = some (next, rest) → rest.length ≤ bytes.length

/-- One case of a parse loop. -/
structure FieldCase (M : Type) where
  tag : Nat
  reader : FieldReader M

namespace ProtobufRuntime

variable (runtime : ProtobufRuntime) {M N : Type}

/-- `field = input.readFloat()`. -/
def floatField (set : M → WireFloat → M) : FieldReader M where
  read message bytes :=
    (runtime.readFloat bytes).map fun (value, rest) => (set message value, rest)
  notLonger := by
    intro message bytes next rest hread
    obtain ⟨⟨value, behind⟩, hfloat, hsame⟩ := Option.map_eq_some_iff.mp hread
    cases hsame
    exact runtime.readFloat_le hfloat

/-- `input.readMessage(parser, ..)`, and what is done with it. -/
def messageField (parser : Parser N) (put : M → N → M) : FieldReader M where
  read message bytes :=
    (runtime.readMessage parser bytes).map fun (item, rest) =>
      (put message item, rest)
  notLonger := by
    intro message bytes next rest hread
    obtain ⟨⟨item, behind⟩, hmessage, hsame⟩ := Option.map_eq_some_iff.mp hread
    cases hsame
    exact runtime.readMessage_le hmessage

/-- One round of `while (!done)`. -/
def mergeRound (cases : List (FieldCase M)) (message : M) (bytes : List UInt8) :
    Round M (Option (M × Nat)) :=
  match runtime.readTag bytes with
  | none => .stop none
  | some (tag, rest) =>
      if tag = 0 then .stop (some (message, 0))
      else
        match cases.find? fun field => field.tag = tag with
        | some field =>
            match field.reader.read message rest with
            | some (next, rest) => .next next rest
            | none => .stop none
        | none =>
            match runtime.parseUnknownField tag rest with
            | some (true, rest) => .next message rest
            | some (false, _) => .stop (some (message, tag))
            | none => .stop none

/-- `MERGE_FROM_STREAM`. -/
def mergeLoop (cases : List (FieldCase M)) : Loop M (Option (M × Nat)) where
  round := runtime.mergeRound cases
  shorter := by
    intro message bytes next rest hround
    unfold mergeRound at hround
    split at hround
    · cases hround
    · next tag behind htag =>
        split at hround
        · cases hround
        · next hne =>
            have hless := runtime.readTag_shorter htag hne
            split at hround
            · next field _ =>
                split at hround
                · next hread =>
                    cases hround
                    have hle := field.reader.notLonger hread
                    omega
                · cases hround
            · split at hround
              · next hskip =>
                  cases hround
                  have hle := runtime.parseUnknownField_le hskip
                  omega
              · cases hround
              · cases hround

end ProtobufRuntime

/-! ## The messages -/

namespace Landmark

/-- The cases of the parse loop. -/
def cases (runtime : ProtobufRuntime) :
    List (FieldCase (NativeLib.Landmark WireFloat)) :=
  [{ tag := 13, reader := runtime.floatField fun message x => { message with x := x } },
    { tag := 21
      reader := runtime.floatField fun message y => { message with y := y } }]

/-- `parser()`. -/
def parser (runtime : ProtobufRuntime) : Parser (NativeLib.Landmark WireFloat) :=
  (runtime.mergeLoop (cases runtime)).run NativeLib.Landmark.defaultInstance

end Landmark

namespace RectF

/-- The cases of the parse loop. -/
def cases (runtime : ProtobufRuntime) :
    List (FieldCase (NativeLib.RectF WireFloat)) :=
  [{ tag := 13
     reader := runtime.floatField fun message left => { message with left := left } },
    { tag := 21
      reader := runtime.floatField fun message top => { message with top := top } },
    { tag := 29
      reader := runtime.floatField fun message right =>
        { message with right := right } },
    { tag := 37
      reader := runtime.floatField fun message bottom =>
        { message with bottom := bottom } }]

/-- `parser()`. -/
def parser (runtime : ProtobufRuntime) : Parser (NativeLib.RectF WireFloat) :=
  (runtime.mergeLoop (cases runtime)).run NativeLib.RectF.defaultInstance

/-- `mergeFrom` of a builder. -/
def mergeFrom (runtime : ProtobufRuntime)
    (message other : NativeLib.RectF WireFloat) : NativeLib.RectF WireFloat where
  left := runtime.visitFloat (!message.left.isZero) message.left
    (!other.left.isZero) other.left
  top := runtime.visitFloat (!message.top.isZero) message.top
    (!other.top.isZero) other.top
  right := runtime.visitFloat (!message.right.isZero) message.right
    (!other.right.isZero) other.right
  bottom := runtime.visitFloat (!message.bottom.isZero) message.bottom
    (!other.bottom.isZero) other.bottom

/-- The part of `writeTo` for one field. -/
def writeField (runtime : ProtobufRuntime) (fieldNumber : Nat)
    (value : WireFloat) : List UInt8 :=
  if !value.isZero then runtime.writeFloat fieldNumber value else []

/-- The part of `getSerializedSize` for one field. -/
def fieldSize (runtime : ProtobufRuntime) (fieldNumber : Nat)
    (value : WireFloat) : Nat :=
  if !value.isZero then runtime.computeFloatSize fieldNumber value else 0

/-- `writeTo`. -/
def writeTo (runtime : ProtobufRuntime) (message : NativeLib.RectF WireFloat) :
    List UInt8 :=
  writeField runtime 1 message.left ++ (writeField runtime 2 message.top ++
    (writeField runtime 3 message.right ++ writeField runtime 4 message.bottom))

/-- `getSerializedSize`. -/
def getSerializedSize (runtime : ProtobufRuntime)
    (message : NativeLib.RectF WireFloat) : Nat :=
  fieldSize runtime 1 message.left + (fieldSize runtime 2 message.top +
    (fieldSize runtime 3 message.right + fieldSize runtime 4 message.bottom))

end RectF

namespace RectFList

/-- `writeTo`. -/
def writeTo (runtime : ProtobufRuntime)
    (rects : List (NativeLib.RectF WireFloat)) : List UInt8 :=
  rects.flatMap fun rect =>
    runtime.writeMessage 1 (RectF.getSerializedSize runtime rect)
      (RectF.writeTo runtime rect)

/-- `getSerializedSize`. -/
def getSerializedSize (runtime : ProtobufRuntime)
    (rects : List (NativeLib.RectF WireFloat)) : Nat :=
  (rects.map fun rect =>
    runtime.computeMessageSize 1 (RectF.getSerializedSize runtime rect)).sum

/-- `toByteArray`. -/
def toByteArray (runtime : ProtobufRuntime)
    (rects : List (NativeLib.RectF WireFloat)) : Option (List UInt8) :=
  runtime.toByteArray (getSerializedSize runtime rects) (writeTo runtime rects)

end RectFList

namespace Face

/-- The cases of the parse loop.  A bound that is there already is merged with
the one that is read. -/
def cases (runtime : ProtobufRuntime) : List (FieldCase FaceFields) :=
  [{ tag := 10
     reader := runtime.messageField (RectF.parser runtime) fun message bound =>
       { message with
         bound_ :=
           match message.bound_ with
           | none => some bound
           | some old => some (RectF.mergeFrom runtime old bound) } },
    { tag := 18
      reader := runtime.messageField (Landmark.parser runtime)
        fun message landmark =>
          { message with landmarks_ := message.landmarks_ ++ [landmark] } }]

/-- `parser()`. -/
def parser (runtime : ProtobufRuntime) : Parser FaceFields :=
  (runtime.mergeLoop (cases runtime)).run FaceFields.defaultInstance

end Face

namespace FaceList

/-- The cases of the parse loop. -/
def cases (runtime : ProtobufRuntime) : List (FieldCase (List FaceFields)) :=
  [{ tag := 10
     reader := runtime.messageField (Face.parser runtime)
       fun faces face => faces ++ [face] }]

/-- `parser()`. -/
def parser (runtime : ProtobufRuntime) : Parser (List FaceFields) :=
  (runtime.mergeLoop (cases runtime)).run []

/-- `FaceList.parseFrom`. -/
def parseFrom (runtime : ProtobufRuntime) (bytes : List UInt8) :
    Option (List FaceFields) :=
  runtime.parseFrom (parser runtime) bytes

end FaceList

/-! ## What C++ writes is parsed -/

section Parsing

variable {runtime : ProtobufRuntime} (hruntime : runtime.Documented)
include hruntime

/-- A tag of one byte whose field is read. -/
theorem round_of_field {M : Type} {cases : List (FieldCase M)} {fieldNumber : Nat}
    (hpos : 0 < fieldNumber) (hfield : fieldNumber < 16) {type : WireType}
    {reader : FieldReader M}
    (hcase : (cases.find? fun field => field.tag = makeTag fieldNumber type).map
      FieldCase.reader = some reader)
    {message next : M} {bytes rest : List UInt8}
    (hread : reader.read message bytes = some (next, rest)) :
    (runtime.mergeLoop cases).round message
        (writeVarint32 (makeTag fieldNumber type) ++ bytes) =
      .next next rest := by
  have hlow : 8 ≤ makeTag fieldNumber type := by
    rw [makeTag_eq]
    omega
  have hne : makeTag fieldNumber type ≠ 0 := by omega
  obtain ⟨field, hfound, rfl⟩ := Option.map_eq_some_iff.mp hcase
  show runtime.mergeRound cases message _ = _
  rw [writeTag_eq hfield, List.singleton_append, ProtobufRuntime.mergeRound,
    hruntime.tag _ _ hlow (makeTag_lt hfield type)]
  simp only [if_neg hne, hfound, hread]

/-- The loop of a message ends with the bytes that act on it. -/
theorem run_of_acts {M : Type} {cases : List (FieldCase M)} {bytes : List UInt8}
    {change : M → M} (hacts : Acts (runtime.mergeLoop cases) bytes change)
    (message : M) :
    (runtime.mergeLoop cases).run message bytes = some (change message, 0) := by
  rw [hacts.run_eq]
  apply Loop.run_of_stop
  show runtime.mergeRound cases (change message) [] = _
  rw [ProtobufRuntime.mergeRound, hruntime.tagAtEnd]
  rfl

theorem acts_floatEntry {M : Type} {cases : List (FieldCase M)}
    {entry : FloatEntry M} (hpos : 0 < entry.fieldNumber)
    (hfield : entry.fieldNumber < 16)
    (hcase : (cases.find? fun field =>
      field.tag = makeTag entry.fieldNumber .fixed32).map FieldCase.reader =
        some (runtime.floatField entry.set)) :
    Acts (runtime.mergeLoop cases) entry.bytes entry.change := by
  obtain ⟨fieldNumber, set, value⟩ := entry
  unfold FloatEntry.bytes FloatEntry.change writeFloatField writeFloat
  by_cases hzero : (!value.isZero) = true
  · simp only [if_pos hzero]
    apply acts_of_round
    intro message rest
    rw [List.append_assoc]
    apply round_of_field hruntime hpos hfield hcase
    simp only [ProtobufRuntime.floatField, hruntime.float]
    rfl
  · simp only [if_neg hzero]
    exact acts_nil

/-- The fields of a message are set one after the other. -/
theorem acts_floatEntries {M : Type} {cases : List (FieldCase M)}
    {entries : List (FloatEntry M)}
    (hentries : ∀ entry ∈ entries, 0 < entry.fieldNumber ∧ entry.fieldNumber < 16 ∧
      (cases.find? fun field => field.tag = makeTag entry.fieldNumber .fixed32) =
        some
          { tag := makeTag entry.fieldNumber .fixed32
            reader := runtime.floatField entry.set }) :
    Acts (runtime.mergeLoop cases) (entries.flatMap FloatEntry.bytes)
      (fun message => entries.foldl (fun message entry => entry.change message)
        message) := by
  apply acts_flatMap
  intro entry hentry
  obtain ⟨hpos, hfield, hfind⟩ := hentries entry hentry
  apply acts_floatEntry hruntime hpos hfield
  rw [hfind, Option.map_some]

theorem acts_messageField {M N : Type} {cases : List (FieldCase M)}
    {fieldNumber : Nat} (hpos : 0 < fieldNumber) (hfield : fieldNumber < 16)
    {parser : Parser N} (put : M → N → M)
    (hcase : (cases.find? fun field =>
      field.tag = makeTag fieldNumber .lengthDelimited).map FieldCase.reader =
        some (runtime.messageField parser put))
    {size : Nat} {bytes : List UInt8} (hsize : bytes.length = size)
    (hsmall : size < 2 ^ 31) {item : N} (hparse : parser bytes = some (item, 0)) :
    Acts (runtime.mergeLoop cases) (writeMessage fieldNumber size bytes)
      (fun message => put message item) := by
  apply acts_of_round
  intro message rest
  have hmessage : runtime.readMessage parser
      (writeVarint32 size ++ bytes ++ rest) = some (item, rest) := by
    rw [writeVarint32, Nat.mod_eq_of_lt (by omega), ← hsize]
    exact hruntime.message parser bytes item rest hparse (by omega)
  rw [writeMessage, List.append_assoc]
  apply round_of_field hruntime hpos hfield hcase
  simp only [ProtobufRuntime.messageField, hmessage]
  rfl

theorem Landmark.parse_serialize (source : NativeLib.Landmark WireFloat) :
    parser runtime source.serialize =
      some (NativeLib.Landmark.defaultInstance.mergeFrom source, 0) := by
  rw [← NativeLib.Landmark.entries_bytes, ← NativeLib.Landmark.entries_change]
  refine run_of_acts hruntime (acts_floatEntries hruntime ?_) _
  simp [NativeLib.Landmark.entries, Landmark.cases, makeTag, WireType.number]

theorem RectF.parse_serialize (source : NativeLib.RectF WireFloat) :
    parser runtime source.serialize =
      some (NativeLib.RectF.defaultInstance.mergeFrom source, 0) := by
  rw [← NativeLib.RectF.entries_bytes, ← NativeLib.RectF.entries_change]
  refine run_of_acts hruntime (acts_floatEntries hruntime ?_) _
  simp [NativeLib.RectF.entries, RectF.cases, makeTag, WireType.number]

theorem Face.parse_serialize (source : FaceFields) :
    parser runtime source.serialize =
      some (FaceFields.defaultInstance.mergeFrom source, 0) := by
  have hlandmarks : Acts (runtime.mergeLoop (cases runtime))
      (source.landmarks_.flatMap fun landmark =>
        writeMessage 2 landmark.byteSizeLong landmark.serialize)
      (fun message =>
        { message with
          landmarks_ := message.landmarks_ ++
            source.landmarks_.map
              NativeLib.Landmark.defaultInstance.mergeFrom }) := by
    refine acts_flatMap_append
      (fun (message : FaceFields) more =>
        { message with landmarks_ := message.landmarks_ ++ more }) ?_ ?_ ?_
    · intro message
      rw [List.append_nil]
    · intro message first second
      rw [List.append_assoc]
    · intro landmark _
      exact acts_messageField hruntime two_pos (show 2 < 16 by norm_num)
        (fun (message : FaceFields) landmark =>
          { message with landmarks_ := message.landmarks_ ++ [landmark] })
        (show ((cases runtime).find? _).map _ = _ from rfl)
        landmark.length_serialize landmark.byteSizeLong_lt
        (Landmark.parse_serialize hruntime landmark)
  unfold FaceFields.serialize
  cases hbound : source.bound_ with
  | none =>
      refine (run_of_acts hruntime hlandmarks _).trans ?_
      rw [FaceFields.mergeFrom, hbound]
  | some bound =>
      have hfirst := acts_messageField hruntime one_pos (show 1 < 16 by norm_num)
        (fun (message : FaceFields) bound =>
          { message with
            bound_ :=
              match message.bound_ with
              | none => some bound
              | some old => some (RectF.mergeFrom runtime old bound) })
        (show ((cases runtime).find? _).map _ = _ from rfl)
        bound.length_serialize bound.byteSizeLong_lt
        (RectF.parse_serialize hruntime bound)
      refine (run_of_acts hruntime (Acts.append hfirst hlandmarks) _).trans ?_
      rw [FaceFields.mergeFrom, hbound]
      rfl

/-- Java reads the list that C++ wrote, when every face has a size that an `int`
holds. -/
theorem FaceList.parse_serialize {source : List FaceFields}
    (hsmall : ∀ face ∈ source, face.byteSizeLong < 2 ^ 31) :
    parseFrom runtime (NativeLib.FaceList.serialize source) =
      some (source.map FaceFields.defaultInstance.mergeFrom) := by
  apply hruntime.parsed
  have hacts : Acts (runtime.mergeLoop (cases runtime))
      (NativeLib.FaceList.serialize source)
      (fun faces => faces ++ source.map FaceFields.defaultInstance.mergeFrom) := by
    refine acts_flatMap_append (fun faces more => faces ++ more)
      List.append_nil List.append_assoc ?_
    intro face hface
    exact acts_messageField hruntime one_pos (show 1 < 16 by norm_num)
      (fun faces face => faces ++ [face])
      (show ((cases runtime).find? _).map _ = _ from rfl)
      face.length_serialize (hsmall face hface)
      (Face.parse_serialize hruntime face)
  exact run_of_acts hruntime hacts []

end Parsing

/-! ## What Java writes are the bytes of C++ -/

section Writing

variable {runtime : ProtobufRuntime} (hruntime : runtime.Documented)
include hruntime

theorem RectF.writeField_eq {fieldNumber : Nat} (hfield : fieldNumber < 16)
    (value : WireFloat) :
    writeField runtime fieldNumber value = writeFloatField fieldNumber value := by
  unfold writeField writeFloatField writeFloat
  rw [hruntime.writtenFloat _ _ hfield, writeTag_eq hfield, makeTag_eq]
  rfl

theorem RectF.fieldSize_eq {fieldNumber : Nat} (hfield : fieldNumber < 16)
    (value : WireFloat) :
    fieldSize runtime fieldNumber value = floatFieldSize value := by
  unfold fieldSize floatFieldSize
  rw [hruntime.floatSize _ _ hfield]

theorem RectF.writeTo_eq (rect : NativeLib.RectF WireFloat) :
    writeTo runtime rect = rect.serialize := by
  unfold writeTo NativeLib.RectF.serialize
  rw [writeField_eq hruntime (by norm_num), writeField_eq hruntime (by norm_num),
    writeField_eq hruntime (by norm_num), writeField_eq hruntime (by norm_num)]

theorem RectF.getSerializedSize_eq (rect : NativeLib.RectF WireFloat) :
    getSerializedSize runtime rect = rect.byteSizeLong := by
  unfold getSerializedSize NativeLib.RectF.byteSizeLong
  rw [fieldSize_eq hruntime (by norm_num), fieldSize_eq hruntime (by norm_num),
    fieldSize_eq hruntime (by norm_num), fieldSize_eq hruntime (by norm_num)]

theorem RectFList.writeTo_eq (rects : List (NativeLib.RectF WireFloat)) :
    writeTo runtime rects = NativeLib.RectFList.serialize rects := by
  unfold writeTo NativeLib.RectFList.serialize
  congr 1
  funext rect
  have hsmall := rect.byteSizeLong_lt
  rw [RectF.getSerializedSize_eq hruntime, RectF.writeTo_eq hruntime,
    hruntime.writtenMessage _ _ _ (by norm_num) hsmall, writeMessage,
    writeTag_eq (by norm_num), makeTag_eq, writeVarint32,
    Nat.mod_eq_of_lt (by omega)]
  rfl

theorem RectFList.getSerializedSize_eq (rects : List (NativeLib.RectF WireFloat)) :
    getSerializedSize runtime rects = NativeLib.RectFList.byteSizeLong rects := by
  have hone : ∀ rect : NativeLib.RectF WireFloat,
      runtime.computeMessageSize 1 (RectF.getSerializedSize runtime rect) =
        1 + lengthDelimitedSize rect.byteSizeLong := by
    intro rect
    have hsmall := rect.byteSizeLong_lt
    have hlength := length_writeVarint32 rect.byteSizeLong
    rw [writeVarint32, Nat.mod_eq_of_lt (by omega)] at hlength
    rw [RectF.getSerializedSize_eq hruntime,
      hruntime.messageSize _ _ (by norm_num) hsmall, hlength, lengthDelimitedSize]
    omega
  unfold getSerializedSize NativeLib.RectFList.byteSizeLong
  simp only [hone]
  induction rects with
  | nil => rfl
  | cons rect rects ih =>
      simp only [List.map_cons, List.sum_cons, List.length_cons] at ih ⊢
      omega

/-- The array Java sends holds the bytes that C++ would write. -/
theorem RectFList.toByteArray_eq {rects : List (NativeLib.RectF WireFloat)}
    (hsmall : NativeLib.RectFList.byteSizeLong rects < 2 ^ 31) :
    toByteArray runtime rects = some (NativeLib.RectFList.serialize rects) := by
  have hlength := NativeLib.RectFList.length_serialize rects
  rw [toByteArray, getSerializedSize_eq hruntime, writeTo_eq hruntime, ← hlength]
  exact hruntime.array _ (by omega)

end Writing

/-- A runtime that knows the fields of the messages and no others. -/
def plainRuntime : ProtobufRuntime where
  readTag bytes := if bytes.isEmpty then some (0, []) else readVarint bytes
  readTag_shorter := by
    intro bytes tag rest hread htag
    split at hread
    · cases hread
      exact absurd rfl htag
    · exact readVarint_shorter hread
  readFloat bytes :=
    if 4 ≤ bytes.length then
      some (BinaryFloat.ofBits (wordOf (bytes.take 4)), bytes.drop 4)
    else none
  readFloat_le := by
    intro bytes value rest hread
    split at hread
    · cases hread
      simp
    · cases hread
  readMessage parser bytes := do
    let (size, rest) ← readVarint bytes
    match parser (rest.take size) with
    | some (item, 0) => return (item, rest.drop size)
    | _ => none
  readMessage_le := by
    intro N parser bytes item rest hread
    obtain ⟨⟨size, behind⟩, hsize, hparse⟩ := Option.bind_eq_some_iff.mp hread
    have hless := readVarint_shorter hsize
    simp only at hparse
    split at hparse
    · cases hparse
      rw [List.length_drop]
      omega
    · cases hparse
  parseUnknownField _ _ := none
  parseUnknownField_le := by
    intro _ _ _ _ hread
    cases hread
  parseFrom parser bytes :=
    match parser bytes with
    | some (item, 0) => some item
    | _ => none
  visitFloat _ mine otherIsSet other := if otherIsSet then other else mine
  computeFloatSize _ _ := 1 + 4
  computeMessageSize _ size := 1 + (varintOf size).length + size
  writeFloat fieldNumber value :=
    UInt8.ofNat (8 * fieldNumber + 5) :: bytesOf 4 value.toBits
  writeMessage fieldNumber size body :=
    UInt8.ofNat (8 * fieldNumber + 2) :: (varintOf size ++ body)
  toByteArray size bytes := if bytes.length = size then some bytes else none

theorem documented_plainRuntime : plainRuntime.Documented where
  tagAtEnd := rfl
  tag := by
    intro tag rest _ hsmall
    have hread := readVarint_varintOf tag rest
    rw [varintOf_small hsmall] at hread
    exact hread
  float := by
    intro value rest
    have hlength : (bytesOf 4 (BinaryFloat.toBits value)).length = 4 :=
      length_bytesOf 4 _
    have henough : 4 ≤ (bytesOf 4 (BinaryFloat.toBits value) ++ rest).length := by
      rw [List.length_append]
      omega
    simp only [plainRuntime, if_pos henough, List.take_left' hlength,
      List.drop_left' hlength, wordOf_bytesOf value.toBits_lt_binary32,
      BinaryFloat.ofBits_toBits (show 2 ≤ binary32.precision by decide)]
  message := by
    intro N parser body item rest hparse _
    simp only [plainRuntime, List.append_assoc, readVarint_varintOf,
      Option.bind_eq_bind, Option.bind_some, List.take_left, List.drop_left, hparse]
    rfl
  parsed := by
    intro N parser bytes item hparse
    simp only [plainRuntime, hparse]
  floatSize := fun _ _ _ => rfl
  messageSize := fun _ _ _ _ => rfl
  writtenFloat := fun _ _ _ => rfl
  writtenMessage := fun _ _ _ _ _ => rfl
  array := fun _ _ => if_pos rfl

end Messages
end Data
end ImportDlibDemo
