import ImportDlibDemo.NativeLib.Messages
import ImportDlibDemo.Proto.CodedStream

/-!
# The generated C++ code of the messages

For every message its size, its bytes, the merging of another message and the
parse loop.  Merging the bytes of a message is merging the message
(`acts_serialize`), and the bytes are as many as `ByteSizeLong` says.

A message knows no fields but its own here: fields that were skipped are not
kept.
-/

namespace ImportDlibDemo
namespace NativeLib

open Library
open Library.StreamLoop
open Proto

/-- A `float` field that was never set. -/
def unsetFloat : WireFloat :=
  BinaryFloat.zero false

/-- `Face` with the bound as the message has it: it may be absent. -/
structure FaceFields where
  bound_ : Option (RectF WireFloat)
  landmarks_ : List (Landmark WireFloat)
  deriving DecidableEq

/-! ## `Landmark` -/

namespace Landmark

/-- `default_instance`. -/
def defaultInstance : Landmark WireFloat where
  x := unsetFloat
  y := unsetFloat

/-- `SerializeWithCachedSizes`. -/
def serialize (message : Landmark WireFloat) : List UInt8 :=
  writeFloatField 1 message.x ++ writeFloatField 2 message.y

/-- `ByteSizeLong`. -/
def byteSizeLong (message : Landmark WireFloat) : Nat :=
  floatFieldSize message.x + floatFieldSize message.y

/-- `MergeFrom`. -/
def mergeFrom (message source : Landmark WireFloat) : Landmark WireFloat where
  x := mergeFloat message.x source.x
  y := mergeFloat message.y source.y

/-- The cases of the parse loop. -/
def cases (input : CodedInputStream) : List (FieldCase (Landmark WireFloat)) :=
  [{ fieldNumber := 1, tagByte := 13
     reader := input.readFloat fun message x => { message with x := x } },
    { fieldNumber := 2, tagByte := 21
      reader := input.readFloat fun message y => { message with y := y } }]

/-- `MergePartialFromCodedStream`. -/
def mergePartialFromCodedStream (input : CodedInputStream)
    (message : Landmark WireFloat) (bytes : List UInt8) :
    Merged (Landmark WireFloat) :=
  (input.mergeLoop (cases input)).run message bytes

theorem length_serialize (message : Landmark WireFloat) :
    message.serialize.length = message.byteSizeLong := by
  unfold serialize byteSizeLong
  rw [List.length_append, length_writeFloatField (by norm_num),
    length_writeFloatField (by norm_num)]

/-- The fields in the order they are written in. -/
def entries (message : Landmark WireFloat) :
    List (FloatEntry (Landmark WireFloat)) :=
  [⟨1, fun message x => { message with x := x }, message.x⟩,
    ⟨2, fun message y => { message with y := y }, message.y⟩]

theorem entries_bytes (message : Landmark WireFloat) :
    message.entries.flatMap FloatEntry.bytes = message.serialize := by
  simp [entries, FloatEntry.bytes, serialize]

theorem entries_change (message source : Landmark WireFloat) :
    source.entries.foldl (fun message entry => entry.change message) message =
      message.mergeFrom source := by
  simp only [entries, List.foldl_cons, List.foldl_nil, FloatEntry.change, mergeFrom,
    mergeFloat]
  split <;> split <;> rfl

theorem acts_serialize (input : CodedInputStream)
    (source : Landmark WireFloat) :
    Acts (input.mergeLoop (cases input)) source.serialize
      (fun message => message.mergeFrom source) := by
  rw [← entries_bytes]
  refine Acts.congr (CodedInputStream.acts_floatEntries ?_)
    fun message => entries_change message source
  simp only [entries, List.forall_mem_cons, List.not_mem_nil, IsEmpty.forall_iff,
    implies_true, and_true]
  exact ⟨⟨by norm_num, rfl⟩, ⟨by norm_num, rfl⟩⟩

end Landmark

/-! ## `RectF` -/

namespace RectF

/-- `default_instance`. -/
def defaultInstance : RectF WireFloat where
  left := unsetFloat
  top := unsetFloat
  right := unsetFloat
  bottom := unsetFloat

/-- `SerializeWithCachedSizes`. -/
def serialize (message : RectF WireFloat) : List UInt8 :=
  writeFloatField 1 message.left ++ (writeFloatField 2 message.top ++
    (writeFloatField 3 message.right ++ writeFloatField 4 message.bottom))

/-- `ByteSizeLong`. -/
def byteSizeLong (message : RectF WireFloat) : Nat :=
  floatFieldSize message.left + (floatFieldSize message.top +
    (floatFieldSize message.right + floatFieldSize message.bottom))

/-- `MergeFrom`. -/
def mergeFrom (message source : RectF WireFloat) : RectF WireFloat where
  left := mergeFloat message.left source.left
  top := mergeFloat message.top source.top
  right := mergeFloat message.right source.right
  bottom := mergeFloat message.bottom source.bottom

/-- The cases of the parse loop. -/
def cases (input : CodedInputStream) : List (FieldCase (RectF WireFloat)) :=
  [{ fieldNumber := 1, tagByte := 13
     reader := input.readFloat fun message left => { message with left := left } },
    { fieldNumber := 2, tagByte := 21
      reader := input.readFloat fun message top => { message with top := top } },
    { fieldNumber := 3, tagByte := 29
      reader := input.readFloat fun message right =>
        { message with right := right } },
    { fieldNumber := 4, tagByte := 37
      reader := input.readFloat fun message bottom =>
        { message with bottom := bottom } }]

/-- `MergePartialFromCodedStream`. -/
def mergePartialFromCodedStream (input : CodedInputStream)
    (message : RectF WireFloat) (bytes : List UInt8) :
    Merged (RectF WireFloat) :=
  (input.mergeLoop (cases input)).run message bytes

theorem length_serialize (message : RectF WireFloat) :
    message.serialize.length = message.byteSizeLong := by
  unfold serialize byteSizeLong
  simp only [List.length_append]
  rw [length_writeFloatField (by norm_num), length_writeFloatField (by norm_num),
    length_writeFloatField (by norm_num), length_writeFloatField (by norm_num)]

/-- The fields in the order they are written in. -/
def entries (message : RectF WireFloat) : List (FloatEntry (RectF WireFloat)) :=
  [⟨1, fun message left => { message with left := left }, message.left⟩,
    ⟨2, fun message top => { message with top := top }, message.top⟩,
    ⟨3, fun message right => { message with right := right }, message.right⟩,
    ⟨4, fun message bottom => { message with bottom := bottom }, message.bottom⟩]

theorem entries_bytes (message : RectF WireFloat) :
    message.entries.flatMap FloatEntry.bytes = message.serialize := by
  simp [entries, FloatEntry.bytes, serialize]

theorem entries_change (message source : RectF WireFloat) :
    source.entries.foldl (fun message entry => entry.change message) message =
      message.mergeFrom source := by
  simp only [entries, List.foldl_cons, List.foldl_nil, FloatEntry.change, mergeFrom,
    mergeFloat]
  split <;> split <;> split <;> split <;> rfl

theorem acts_serialize (input : CodedInputStream) (source : RectF WireFloat) :
    Acts (input.mergeLoop (cases input)) source.serialize
      (fun message => message.mergeFrom source) := by
  rw [← entries_bytes]
  refine Acts.congr (CodedInputStream.acts_floatEntries ?_)
    fun message => entries_change message source
  simp only [entries, List.forall_mem_cons, List.not_mem_nil, IsEmpty.forall_iff,
    implies_true, and_true]
  exact ⟨⟨by norm_num, rfl⟩, ⟨by norm_num, rfl⟩, ⟨by norm_num, rfl⟩,
    ⟨by norm_num, rfl⟩⟩

end RectF

/-! ## `RectFList` -/

namespace RectFList

/-- `SerializeWithCachedSizes`. -/
def serialize (rects : List (RectF WireFloat)) : List UInt8 :=
  rects.flatMap fun rect => writeMessage 1 rect.byteSizeLong rect.serialize

/-- `ByteSizeLong`. -/
def byteSizeLong (rects : List (RectF WireFloat)) : Nat :=
  1 * rects.length +
    (rects.map fun rect => lengthDelimitedSize rect.byteSizeLong).sum

/-- `MergeFrom`. -/
def mergeFrom (rects source : List (RectF WireFloat)) : List (RectF WireFloat) :=
  rects ++ source.map RectF.defaultInstance.mergeFrom

/-- The cases of the parse loop. -/
def cases (input : CodedInputStream) : List (FieldCase (List (RectF WireFloat))) :=
  [{ fieldNumber := 1, tagByte := 10
     reader := input.readMessage (RectF.mergePartialFromCodedStream input)
       (fun _ => RectF.defaultInstance) (fun rects rect => rects ++ [rect]) }]

/-- `MergePartialFromCodedStream`. -/
def mergePartialFromCodedStream (input : CodedInputStream)
    (rects : List (RectF WireFloat)) (bytes : List UInt8) :
    Merged (List (RectF WireFloat)) :=
  (input.mergeLoop (cases input)).run rects bytes

end RectFList

/-! ## `Face` -/

namespace FaceFields

/-- `default_instance`. -/
def defaultInstance : FaceFields where
  bound_ := none
  landmarks_ := []

/-- `bound()`. -/
def bound (message : FaceFields) : RectF WireFloat :=
  message.bound_.getD RectF.defaultInstance

/-- `SerializeWithCachedSizes`. -/
def serialize (message : FaceFields) : List UInt8 :=
  (match message.bound_ with
    | some bound => writeMessage 1 bound.byteSizeLong bound.serialize
    | none => []) ++
    message.landmarks_.flatMap fun landmark =>
      writeMessage 2 landmark.byteSizeLong landmark.serialize

/-- `ByteSizeLong`. -/
def byteSizeLong (message : FaceFields) : Nat :=
  (1 * message.landmarks_.length +
    (message.landmarks_.map fun landmark =>
      lengthDelimitedSize landmark.byteSizeLong).sum) +
    match message.bound_ with
    | some bound => 1 + lengthDelimitedSize bound.byteSizeLong
    | none => 0

/-- `MergeFrom`. -/
def mergeFrom (message source : FaceFields) : FaceFields where
  bound_ :=
    match source.bound_ with
    | some bound => some (message.bound.mergeFrom bound)
    | none => message.bound_
  landmarks_ := message.landmarks_ ++
    source.landmarks_.map Landmark.defaultInstance.mergeFrom

/-- The cases of the parse loop. -/
def cases (input : CodedInputStream) : List (FieldCase FaceFields) :=
  [{ fieldNumber := 1, tagByte := 10
     reader := input.readMessage (RectF.mergePartialFromCodedStream input) bound
       fun message bound => { message with bound_ := some bound } },
    { fieldNumber := 2, tagByte := 18
      reader := input.readMessage (Landmark.mergePartialFromCodedStream input)
        (fun _ => Landmark.defaultInstance)
        fun message landmark =>
          { message with landmarks_ := message.landmarks_ ++ [landmark] } }]

/-- `MergePartialFromCodedStream`. -/
def mergePartialFromCodedStream (input : CodedInputStream) (message : FaceFields)
    (bytes : List UInt8) : Merged FaceFields :=
  (input.mergeLoop (cases input)).run message bytes

end FaceFields

/-! ## `FaceList` -/

namespace FaceList

/-- `SerializeWithCachedSizes`. -/
def serialize (faces : List FaceFields) : List UInt8 :=
  faces.flatMap fun face => writeMessage 1 face.byteSizeLong face.serialize

/-- `ByteSizeLong`. -/
def byteSizeLong (faces : List FaceFields) : Nat :=
  1 * faces.length +
    (faces.map fun face => lengthDelimitedSize face.byteSizeLong).sum

/-- `MergeFrom`. -/
def mergeFrom (faces source : List FaceFields) : List FaceFields :=
  faces ++ source.map FaceFields.defaultInstance.mergeFrom

/-- The cases of the parse loop. -/
def cases (input : CodedInputStream) : List (FieldCase (List FaceFields)) :=
  [{ fieldNumber := 1, tagByte := 10
     reader := input.readMessage (FaceFields.mergePartialFromCodedStream input)
       (fun _ => FaceFields.defaultInstance) (fun faces face => faces ++ [face]) }]

/-- `MergePartialFromCodedStream`. -/
def mergePartialFromCodedStream (input : CodedInputStream)
    (faces : List FaceFields) (bytes : List UInt8) : Merged (List FaceFields) :=
  (input.mergeLoop (cases input)).run faces bytes

end FaceList

/-! ## Sizes -/

/-- The fields of a repeated message are as long as they are counted. -/
theorem length_repeated {M : Type} {fieldNumber : Nat} (hfield : fieldNumber < 16)
    {byteSizeLong : M → Nat} {serialize : M → List UInt8}
    (hsize : ∀ message, (serialize message).length = byteSizeLong message)
    (messages : List M) :
    (messages.flatMap fun message =>
        writeMessage fieldNumber (byteSizeLong message) (serialize message)).length =
      1 * messages.length +
        (messages.map fun message =>
          lengthDelimitedSize (byteSizeLong message)).sum := by
  induction messages with
  | nil => rfl
  | cons message messages ih =>
      rw [List.flatMap_cons, List.length_append, ih,
        length_writeMessage hfield (hsize message), List.map_cons, List.sum_cons,
        List.length_cons]
      omega

theorem FaceFields.length_serialize (message : FaceFields) :
    message.serialize.length = message.byteSizeLong := by
  unfold serialize byteSizeLong
  rw [List.length_append, length_repeated (by norm_num) Landmark.length_serialize,
    Nat.add_comm]
  cases message.bound_ with
  | none => rfl
  | some bound =>
      simp only
      rw [length_writeMessage (by norm_num) bound.length_serialize]

theorem RectFList.length_serialize (rects : List (RectF WireFloat)) :
    (serialize rects).length = byteSizeLong rects :=
  length_repeated (by norm_num) RectF.length_serialize rects

theorem FaceList.length_serialize (faces : List FaceFields) :
    (serialize faces).length = byteSizeLong faces :=
  length_repeated (by norm_num) FaceFields.length_serialize faces

theorem floatFieldSize_le (value : WireFloat) : floatFieldSize value ≤ 5 := by
  unfold floatFieldSize
  split <;> omega

theorem Landmark.byteSizeLong_le (message : Landmark WireFloat) :
    message.byteSizeLong ≤ 10 := by
  have hx := floatFieldSize_le message.x
  have hy := floatFieldSize_le message.y
  unfold byteSizeLong
  omega

theorem RectF.byteSizeLong_le (message : RectF WireFloat) :
    message.byteSizeLong ≤ 20 := by
  have hleft := floatFieldSize_le message.left
  have htop := floatFieldSize_le message.top
  have hright := floatFieldSize_le message.right
  have hbottom := floatFieldSize_le message.bottom
  unfold byteSizeLong
  omega

theorem Landmark.byteSizeLong_lt (message : Landmark WireFloat) :
    message.byteSizeLong < 2 ^ 31 :=
  message.byteSizeLong_le.trans_lt (by norm_num)

theorem RectF.byteSizeLong_lt (message : RectF WireFloat) :
    message.byteSizeLong < 2 ^ 31 :=
  message.byteSizeLong_le.trans_lt (by norm_num)

/-- A repeated field takes at most six bytes more than each of its messages. -/
theorem sum_lengthDelimitedSize_le {M : Type} {byteSizeLong : M → Nat}
    {bound : Nat} {messages : List M}
    (hbound : ∀ message ∈ messages, byteSizeLong message ≤ bound) :
    1 * messages.length +
        (messages.map fun message =>
          lengthDelimitedSize (byteSizeLong message)).sum ≤
      (bound + 6) * messages.length := by
  have hsum := List.sum_le_card_nsmul
    (messages.map fun message => lengthDelimitedSize (byteSizeLong message))
    (bound + 5) (by
      intro size hsize
      obtain ⟨message, hmessage, rfl⟩ := List.mem_map.mp hsize
      exact Nat.add_le_add (hbound message hmessage) (varintSize32_le _))
  rw [List.length_map, smul_eq_mul, Nat.mul_comm] at hsum
  have hsplit : (bound + 6) * messages.length =
      (bound + 5) * messages.length + messages.length := by ring
  omega

/-- The size of faces with at most 68 landmarks. -/
theorem FaceList.byteSizeLong_le {faces : List FaceFields}
    (hlandmarks : ∀ face ∈ faces, face.landmarks_.length ≤ 68) :
    byteSizeLong faces ≤ 1120 * faces.length := by
  have hface : ∀ face ∈ faces, face.byteSizeLong ≤ 1114 := by
    intro face hface
    have hmany := hlandmarks face hface
    have hsum : 1 * face.landmarks_.length +
          (face.landmarks_.map fun landmark =>
            lengthDelimitedSize landmark.byteSizeLong).sum ≤
        (10 + 6) * face.landmarks_.length :=
      sum_lengthDelimitedSize_le fun landmark _ => landmark.byteSizeLong_le
    unfold FaceFields.byteSizeLong
    split
    · next bound _ =>
        have hbound := bound.byteSizeLong_le
        have hvarint := varintSize32_le bound.byteSizeLong
        unfold lengthDelimitedSize at hsum ⊢
        omega
    · omega
  exact sum_lengthDelimitedSize_le hface

theorem RectFList.byteSizeLong_le (rects : List (RectF WireFloat)) :
    byteSizeLong rects ≤ 26 * rects.length :=
  sum_lengthDelimitedSize_le fun rect _ => rect.byteSizeLong_le

/-- A face is no longer than the list it is in. -/
theorem FaceList.byteSizeLong_lt {faces : List FaceFields}
    (hsmall : byteSizeLong faces < 2 ^ 31) :
    ∀ face ∈ faces, face.byteSizeLong < 2 ^ 31 := by
  intro face hface
  have hle : lengthDelimitedSize face.byteSizeLong ≤
      (faces.map fun face => lengthDelimitedSize face.byteSizeLong).sum :=
    List.le_sum_of_mem (List.mem_map_of_mem hface)
  have hface : face.byteSizeLong ≤ lengthDelimitedSize face.byteSizeLong :=
    Nat.le_add_right _ _
  unfold byteSizeLong at hsmall
  omega

/-! ## Merging the bytes of a message -/

section Merging

variable {input : CodedInputStream} (hinput : input.Documented)
include hinput

/-- A loop that the bytes of a message merge it into takes them as the whole
input. -/
theorem run_of_acts {M : Type} {cases : List (FieldCase M)} {bytes : List UInt8}
    {change : M → M} (hacts : Acts (input.mergeLoop cases) bytes change)
    (message : M) :
    (input.mergeLoop cases).run message bytes = .success (change message) true := by
  rw [hacts.run_eq, CodedInputStream.mergeLoop_nil hinput]

theorem RectF.merge_serialize (source message : RectF WireFloat) :
    mergePartialFromCodedStream input message source.serialize =
      .success (message.mergeFrom source) true :=
  run_of_acts hinput (acts_serialize input source) message

theorem Landmark.merge_serialize (source message : Landmark WireFloat) :
    mergePartialFromCodedStream input message source.serialize =
      .success (message.mergeFrom source) true :=
  run_of_acts hinput (acts_serialize input source) message

theorem RectFList.acts_serialize (source : List (RectF WireFloat)) :
    Acts (input.mergeLoop (cases input)) (serialize source)
      (fun rects => mergeFrom rects source) := by
  refine acts_flatMap_append (fun rects more => rects ++ more)
    List.append_nil List.append_assoc ?_
  intro rect _
  exact CodedInputStream.acts_writeMessage hinput (show 1 < 16 by norm_num)
    (fun _ => RectF.defaultInstance) (fun rects rect => rects ++ [rect]) rfl
    rect.length_serialize rect.byteSizeLong_lt
    (RectF.merge_serialize hinput rect)

theorem FaceFields.acts_serialize (source : FaceFields) :
    Acts (input.mergeLoop (cases input)) source.serialize
      (fun message => message.mergeFrom source) := by
  have hlandmarks : Acts (input.mergeLoop (cases input))
      (source.landmarks_.flatMap fun landmark =>
        writeMessage 2 landmark.byteSizeLong landmark.serialize)
      (fun message =>
        { message with
          landmarks_ := message.landmarks_ ++
            source.landmarks_.map Landmark.defaultInstance.mergeFrom }) := by
    refine acts_flatMap_append
      (fun (message : FaceFields) more =>
        { message with landmarks_ := message.landmarks_ ++ more }) ?_ ?_ ?_
    · intro message
      rw [List.append_nil]
    · intro message first second
      rw [List.append_assoc]
    · intro landmark _
      exact CodedInputStream.acts_writeMessage hinput (show 2 < 16 by norm_num)
        (fun _ => Landmark.defaultInstance)
        (fun (message : FaceFields) landmark =>
          { message with landmarks_ := message.landmarks_ ++ [landmark] }) rfl
        landmark.length_serialize landmark.byteSizeLong_lt
        (Landmark.merge_serialize hinput landmark)
  unfold serialize
  cases hbound : source.bound_ with
  | none =>
      refine Acts.congr hlandmarks ?_
      intro message
      rw [mergeFrom, hbound]
  | some bound =>
      have hfirst := CodedInputStream.acts_writeMessage hinput
        (show 1 < 16 by norm_num) FaceFields.bound
        (fun message bound => { message with bound_ := some bound })
        (show selectField (cases input) _ = _ from rfl)
        bound.length_serialize bound.byteSizeLong_lt
        (RectF.merge_serialize hinput bound)
      refine Acts.congr (Acts.append hfirst hlandmarks) ?_
      intro message
      rw [mergeFrom, hbound]
      rfl

/-- A list whose faces have sizes that an `int` holds. -/
theorem FaceList.acts_serialize {source : List FaceFields}
    (hsmall : ∀ face ∈ source, face.byteSizeLong < 2 ^ 31) :
    Acts (input.mergeLoop (cases input)) (serialize source)
      (fun faces => mergeFrom faces source) := by
  refine acts_flatMap_append (fun faces more => faces ++ more)
    List.append_nil List.append_assoc ?_
  intro face hface
  exact CodedInputStream.acts_writeMessage hinput (show 1 < 16 by norm_num)
    (fun _ => FaceFields.defaultInstance) (fun faces face => faces ++ [face]) rfl
    face.length_serialize (hsmall face hface)
    (run_of_acts hinput (FaceFields.acts_serialize hinput face))

end Merging

end NativeLib
end ImportDlibDemo
