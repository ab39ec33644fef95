import ImportDlibDemo.Library.Base128
import ImportDlibDemo.Library.FloatBits
import ImportDlibDemo.Library.LittleEndianWord
import ImportDlibDemo.Library.StreamLoop

/-!
# The wire format in C++

What the headers of the protobuf runtime have of `CodedOutputStream`,
`CodedInputStream` and `WireFormatLite`: how tags, floats, sizes and messages
are written, and the parse loop that all generated messages share.

The paths that the headers leave to the library, and what it skips, are the
argument `CodedInputStream`; `Documented` says what is known of them.  The input
is the bytes up to the innermost limit.
-/

namespace ImportDlibDemo
namespace Proto

open Library
open Library.Base128
open Library.LittleEndianWord
open Library.StreamLoop

/-- The type `float`. -/
abbrev WireFloat := BinaryFloat binary32

/-! ## Writing -/

/-- The wire types the messages use. -/
inductive WireType
  | lengthDelimited
  | fixed32
  deriving DecidableEq, Repr

/-- The number of a `WireType`. -/
def WireType.number : WireType → Nat
  | lengthDelimited => 2
  | fixed32 => 5

/-- `MakeTag`. -/
def makeTag (fieldNumber : Nat) (type : WireType) : Nat :=
  fieldNumber <<< 3 ||| type.number

/-- `WriteVarint32ToArray`. -/
def writeVarint32 (value : Nat) : List UInt8 :=
  varintOf (value % 2 ^ 32)

/-- `WriteFloat`, as `WriteFloatToArray` has it. -/
def writeFloat (fieldNumber : Nat) (value : WireFloat) : List UInt8 :=
  writeVarint32 (makeTag fieldNumber .fixed32) ++ bytesOf 4 value.toBits

/-- `WriteMessage`, as `InternalWriteMessageToArray` has it, of a message with
this cached size and these bytes. -/
def writeMessage (fieldNumber cachedSize : Nat) (bytes : List UInt8) :
    List UInt8 :=
  writeVarint32 (makeTag fieldNumber .lengthDelimited) ++
    (writeVarint32 cachedSize ++ bytes)

/-- `VarintSize32`. -/
def varintSize32 (value : Nat) : Nat :=
  (Nat.log2 (value % 2 ^ 32 ||| 1) * 9 + 73) / 64

/-- `LengthDelimitedSize`. -/
def lengthDelimitedSize (length : Nat) : Nat :=
  length + varintSize32 length

/-- The code generated for a `float` field: zero is not written. -/
def writeFloatField (fieldNumber : Nat) (value : WireFloat) : List UInt8 :=
  if !value.isZero then writeFloat fieldNumber value else []

/-- What the field adds to the size. -/
def floatFieldSize (value : WireFloat) : Nat :=
  if !value.isZero then 1 + 4 else 0

/-- The code generated to merge a `float` field. -/
def mergeFloat (mine other : WireFloat) : WireFloat :=
  if !other.isZero then other else mine

/-! ## Reading -/

/-- What `ReadTagWithCutoffNoLastTag` returns, with the end it may have found
and the bytes behind the tag. -/
structure TagRead where
  tag : Nat
  atOrBelowCutoff : Bool
  legitimateMessageEnd : Bool
  rest : List UInt8

/-- What the headers leave open of a `CodedInputStream` and of `SkipField`.
Nothing that reads lengthens the stream, and a tag is not read from nothing. -/
structure CodedInputStream where
  readTagFallback : List UInt8 → Nat × Bool × List UInt8
  readTagFallback_shorter : ∀ {bytes}, (readTagFallback bytes).1 ≠ 0 →
    (readTagFallback bytes).2.2.length < bytes.length
  readVarintSizeAsIntFallback : List UInt8 → Option (Nat × List UInt8)
  readVarintSizeAsIntFallback_le : ∀ {bytes size rest},
    readVarintSizeAsIntFallback bytes = some (size, rest) →
      rest.length ≤ bytes.length
  readLittleEndian32Fallback : List UInt8 → Option (Nat × List UInt8)
  readLittleEndian32Fallback_le : ∀ {bytes value rest},
    readLittleEndian32Fallback bytes = some (value, rest) →
      rest.length ≤ bytes.length
  skipField : Nat → List UInt8 → Option (List UInt8)
  skipField_le : ∀ {tag bytes rest}, skipField tag bytes = some rest →
    rest.length ≤ bytes.length

/-- At the end there is no tag, and the end is a legitimate one; a size that
takes more than a byte is read when an `int` holds it. -/
structure CodedInputStream.Documented (input : CodedInputStream) : Prop where
  tagAtEnd : input.readTagFallback [] = (0, true, [])
  size : ∀ size rest, 0x80 ≤ size → size < 2 ^ 31 →
    input.readVarintSizeAsIntFallback (varintOf size ++ rest) = some (size, rest)

/-- How `MergePartialFromCodedStream` ends: it returns true, perhaps before the
end of the message, or it returns false with the fields read so far. -/
inductive Merged (M : Type)
  | success (message : M) (legitimateMessageEnd : Bool)
  | failure (message : M)
  deriving DecidableEq, Repr

/-- The message, however it ended. -/
def Merged.message {M : Type} : Merged M → M
  | success message _ => message
  | failure message => message

/-- The code of one case of a parse loop: the message it leaves, and the bytes
behind the field unless reading failed. -/
structure FieldReader (M : Type) where
  read : M → List UInt8 → M × Option (List UInt8)
  notLonger : ∀ {message bytes rest}, (read message bytes).2 = some rest →
    rest.length ≤ bytes.length

/-- One case of a parse loop. -/
structure FieldCase (M : Type) where
  fieldNumber : Nat
  tagByte : Nat
  reader : FieldReader M

/-- The reader of the field of a tag, if the tag is the one the field has. -/
def selectField {M : Type} (cases : List (FieldCase M)) (tag : Nat) :
    Option (FieldReader M) :=
  match cases.find? fun field => field.fieldNumber = tag >>> 3 with
  | none => none
  | some field => if tag % 2 ^ 8 = field.tagByte then some field.reader else none

namespace CodedInputStream

variable (input : CodedInputStream) {M N : Type}

/-- The slow path of `ReadTagWithCutoffNoLastTag(127)`, where `tag - 1` wraps. -/
def readTagSlowly (bytes : List UInt8) : TagRead :=
  let p := input.readTagFallback bytes
  { tag := p.1
    atOrBelowCutoff := (p.1 + (2 ^ 32 - 1)) % 2 ^ 32 < 127
    legitimateMessageEnd := p.2.1
    rest := p.2.2 }

/-- `ReadTagWithCutoffNoLastTag(127)`.  The path for tags of two bytes is for
greater cutoffs. -/
def readTagWithCutoffNoLastTag (bytes : List UInt8) : TagRead :=
  match bytes with
  | [] => input.readTagSlowly []
  | first :: rest =>
      if 0 < first ∧ first < 0x80 then
        { tag := first.toNat
          atOrBelowCutoff := true
          legitimateMessageEnd := false
          rest := rest }
      else input.readTagSlowly (first :: rest)

/-- `ReadVarintSizeAsInt`. -/
def readVarintSizeAsInt (bytes : List UInt8) : Option (Nat × List UInt8) :=
  match bytes with
  | [] => input.readVarintSizeAsIntFallback []
  | first :: rest =>
      if first < 0x80 then some (first.toNat, rest)
      else input.readVarintSizeAsIntFallback bytes

/-- `ReadLittleEndian32`. -/
def readLittleEndian32 (bytes : List UInt8) : Option (Nat × List UInt8) :=
  if 4 ≤ bytes.length then some (wordOf (bytes.take 4), bytes.drop 4)
  else input.readLittleEndian32Fallback bytes

theorem readTag_shorter {bytes : List UInt8}
    (htag : (input.readTagWithCutoffNoLastTag bytes).tag ≠ 0) :
    (input.readTagWithCutoffNoLastTag bytes).rest.length < bytes.length := by
  unfold readTagWithCutoffNoLastTag at htag ⊢
  cases bytes with
  | nil => exact input.readTagFallback_shorter htag
  | cons first rest =>
      simp only at htag ⊢
      split
      · exact Nat.lt_succ_self _
      · next hslow =>
          rw [if_neg hslow] at htag
          exact input.readTagFallback_shorter htag

/-- Zero is never at or below the cutoff. -/
theorem tag_ne_zero_of_atOrBelow {bytes : List UInt8}
    (hbelow : (input.readTagWithCutoffNoLastTag bytes).atOrBelowCutoff = true) :
    (input.readTagWithCutoffNoLastTag bytes).tag ≠ 0 := by
  have hslow : ∀ bytes, (input.readTagSlowly bytes).atOrBelowCutoff = true →
      (input.readTagSlowly bytes).tag ≠ 0 := by
    intro bytes hless hzero
    unfold readTagSlowly at hless hzero
    simp only at hless hzero
    rw [hzero] at hless
    norm_num at hless
  unfold readTagWithCutoffNoLastTag at hbelow ⊢
  cases bytes with
  | nil => exact hslow _ hbelow
  | cons first rest =>
      simp only at hbelow ⊢
      split
      · next hfast =>
          have hpos := UInt8.lt_iff_toNat_lt.mp hfast.1
          exact Nat.ne_of_gt hpos
      · next hnot =>
          rw [if_neg hnot] at hbelow
          exact hslow _ hbelow

/-- `ReadPrimitive` of a `float` into a field. -/
def readFloat (set : M → WireFloat → M) : FieldReader M where
  read message bytes :=
    match input.readLittleEndian32 bytes with
    | some (value, rest) => (set message (BinaryFloat.ofBits value), some rest)
    | none => (message, none)
  notLonger := by
    intro message bytes rest hread
    cases hword : input.readLittleEndian32 bytes with
    | none =>
        rw [hword] at hread
        cases hread
    | some word =>
        rw [hword] at hread
        obtain rfl := Option.some.inj hread
        unfold readLittleEndian32 at hword
        split at hword
        · rw [← Option.some.inj hword]
          simp
        · exact input.readLittleEndian32Fallback_le hword

/-- `ReadMessage` into the field `get` finds or makes: the bytes up to the size
are merged into it, and they have to end where it says. -/
def readMessage (merge : N → List UInt8 → Merged N) (get : M → N)
    (put : M → N → M) : FieldReader M where
  read message bytes :=
    match input.readVarintSizeAsInt bytes with
    | none => (put message (get message), none)
    | some (length, rest) =>
        match merge (get message) (rest.take length) with
        | .success item true => (put message item, some (rest.drop length))
        | .success item false => (put message item, none)
        | .failure item => (put message item, none)
  notLonger := by
    intro message bytes rest hread
    cases hsize : input.readVarintSizeAsInt bytes with
    | none =>
        rw [hsize] at hread
        cases hread
    | some sized =>
        obtain ⟨length, behind⟩ := sized
        have hbehind : behind.length ≤ bytes.length := by
          unfold readVarintSizeAsInt at hsize
          split at hsize
          · exact input.readVarintSizeAsIntFallback_le hsize
          · split at hsize
            · cases hsize
              exact Nat.le_succ _
            · exact input.readVarintSizeAsIntFallback_le hsize
        rw [hsize] at hread
        simp only at hread
        split at hread
        · obtain rfl := Option.some.inj hread
          rw [List.length_drop]
          omega
        · cases hread
        · cases hread

/-- One round of a parse loop. -/
def mergeRound (cases : List (FieldCase M)) (message : M) (bytes : List UInt8) :
    Round M (Merged M) :=
  let p := input.readTagWithCutoffNoLastTag bytes
  match if p.atOrBelowCutoff then selectField cases p.tag else none with
  | some reader =>
      match reader.read message p.rest with
      | (message, some rest) => .next message rest
      | (message, none) => .stop (.failure message)
  | none =>
      if p.tag = 0 then .stop (.success message p.legitimateMessageEnd)
      else
        match input.skipField p.tag p.rest with
        | some rest => .next message rest
        | none => .stop (.failure message)

/-- The `for (;;)` of a `MergePartialFromCodedStream`. -/
def mergeLoop (cases : List (FieldCase M)) : Loop M (Merged M) where
  round := input.mergeRound cases
  shorter := by
    intro message bytes next rest hround
    unfold mergeRound at hround
    simp only at hround
    split at hround
    · next reader hreader =>
        have hbelow : (input.readTagWithCutoffNoLastTag bytes).atOrBelowCutoff =
            true := by
          by_contra hnot
          rw [if_neg hnot] at hreader
          cases hreader
        have hless := input.readTag_shorter (input.tag_ne_zero_of_atOrBelow hbelow)
        split at hround
        · next message' rest' hread =>
            obtain ⟨rfl, rfl⟩ := Round.next.inj hround
            have hle := reader.notLonger (by rw [hread])
            omega
        · cases hround
    · split at hround
      · cases hround
      · next htag =>
          have hless := input.readTag_shorter htag
          split at hround
          · next rest' hskip =>
              obtain ⟨rfl, rfl⟩ := Round.next.inj hround
              have hle := input.skipField_le hskip
              omega
          · cases hround

end CodedInputStream

/-! ## Sizes -/

@[simp] theorem length_writeVarint32 (value : Nat) :
    (writeVarint32 value).length = varintSize32 value := by
  have hbound : value % 2 ^ 32 < 2 ^ 32 := Nat.mod_lt _ (by norm_num)
  unfold writeVarint32 varintSize32
  generalize value % 2 ^ 32 = word at hbound
  have hlog : Nat.log2 (word ||| 1) = Nat.log2 word := by
    rcases Nat.eq_zero_or_pos word with rfl | hpos
    · rfl
    · have hor : word ||| 1 ≠ 0 := by
        have hle := Nat.left_le_or (n := word) (m := 1)
        omega
      apply (Nat.log2_eq_iff hor).mpr
      have hlow := Nat.log2_self_le hpos.ne'
      have hhigh : word < 2 ^ (Nat.log2 word + 1) := Nat.lt_log2_self
      have hone : 1 < 2 ^ (Nat.log2 word + 1) :=
        Nat.one_lt_two_pow (Nat.succ_ne_zero _)
      exact ⟨hlow.trans Nat.left_le_or, Nat.or_lt_two_pow hhigh hone⟩
  have hsmall : Nat.log2 word < 32 := by
    rcases Nat.eq_zero_or_pos word with rfl | hpos
    · decide
    · exact (Nat.log2_lt hpos.ne').mpr hbound
  rw [length_varintOf, hlog]
  -- The multiplication stands for the division by seven up to 31.
  omega

theorem makeTag_eq (fieldNumber : Nat) (type : WireType) :
    makeTag fieldNumber type = 8 * fieldNumber + type.number := by
  have hnumber : type.number < 2 ^ 3 := by cases type <;> decide
  rw [makeTag, Nat.shiftLeft_eq, Nat.mul_comm fieldNumber,
    ← Nat.two_pow_add_eq_or_of_lt hnumber]

theorem makeTag_lt {fieldNumber : Nat} (hfield : fieldNumber < 16)
    (type : WireType) : makeTag fieldNumber type < 0x80 := by
  have hnumber : type.number < 8 := by cases type <;> decide
  rw [makeTag_eq]
  omega

theorem makeTag_pos (fieldNumber : Nat) (type : WireType) :
    0 < makeTag fieldNumber type := by
  have hnumber : 0 < type.number := by cases type <;> decide
  rw [makeTag_eq]
  omega

theorem varintSize32_le (value : Nat) : varintSize32 value ≤ 5 := by
  have hbound : value % 2 ^ 32 < 2 ^ 32 := Nat.mod_lt _ (by norm_num)
  have hor : value % 2 ^ 32 ||| 1 < 2 ^ 32 :=
    Nat.or_lt_two_pow hbound (by norm_num)
  have hne : value % 2 ^ 32 ||| 1 ≠ 0 := by
    have hone : 1 ≤ value % 2 ^ 32 ||| 1 := Nat.right_le_or
    omega
  have hlog := (Nat.log2_lt hne).mpr hor
  unfold varintSize32
  omega

/-- The tags of the first fields are one byte. -/
theorem writeTag_eq {fieldNumber : Nat} (hfield : fieldNumber < 16)
    (type : WireType) :
    writeVarint32 (makeTag fieldNumber type) =
      [UInt8.ofNat (makeTag fieldNumber type)] := by
  have htag := makeTag_lt hfield type
  rw [writeVarint32, Nat.mod_eq_of_lt (by omega), varintOf_small htag]

theorem length_writeFloatField {fieldNumber : Nat} (hfield : fieldNumber < 16)
    (value : WireFloat) :
    (writeFloatField fieldNumber value).length = floatFieldSize value := by
  unfold writeFloatField floatFieldSize writeFloat
  split
  · rw [writeTag_eq hfield]
    simp
  · rfl

theorem length_writeMessage {fieldNumber : Nat} (hfield : fieldNumber < 16)
    {bytes : List UInt8} {cachedSize : Nat} (hsize : bytes.length = cachedSize) :
    (writeMessage fieldNumber cachedSize bytes).length =
      1 + lengthDelimitedSize cachedSize := by
  unfold writeMessage lengthDelimitedSize
  rw [writeTag_eq hfield]
  simp only [List.length_append, List.length_singleton, length_writeVarint32,
    hsize]
  omega

/-! ## What is written is merged -/

/-- A `float` field of a message that is written: its number, how it is set, and the
value it has. -/
structure FloatEntry (M : Type) where
  fieldNumber : Nat
  set : M → WireFloat → M
  value : WireFloat

/-- The bytes of the field. -/
def FloatEntry.bytes {M : Type} (entry : FloatEntry M) : List UInt8 :=
  writeFloatField entry.fieldNumber entry.value

/-- What they do to a message: a zero is not written, and sets nothing. -/
def FloatEntry.change {M : Type} (entry : FloatEntry M) (message : M) : M :=
  if !entry.value.isZero then entry.set message entry.value else message

namespace CodedInputStream

variable {input : CodedInputStream} {M N : Type} {cases : List (FieldCase M)}

theorem mergeLoop_round :
    (input.mergeLoop cases).round = input.mergeRound cases := rfl

/-- A tag of one byte whose field is read. -/
theorem round_of_field {tag : Nat} (hpos : 0 < tag) (hsmall : tag < 0x80)
    {reader : FieldReader M} (hreader : selectField cases tag = some reader)
    {message next : M} {bytes rest : List UInt8}
    (hread : reader.read message bytes = (next, some rest)) :
    input.mergeRound cases message (UInt8.ofNat tag :: bytes) =
      .next next rest := by
  have hbyte : (UInt8.ofNat tag).toNat = tag := by
    rw [UInt8.toNat_ofNat']
    omega
  have hfast : 0 < UInt8.ofNat tag ∧ UInt8.ofNat tag < 0x80 := by
    rw [UInt8.lt_iff_toNat_lt, UInt8.lt_iff_toNat_lt, hbyte]
    exact ⟨hpos, hsmall⟩
  unfold mergeRound readTagWithCutoffNoLastTag
  simp only [if_pos hfast, if_true, hbyte, hreader, hread]

/-- The end of the input ends the loop. -/
theorem mergeLoop_nil (hinput : input.Documented) (message : M) :
    (input.mergeLoop cases).run message [] = .success message true := by
  apply Loop.run_of_stop
  rw [mergeLoop_round]
  have hcutoff : ¬ (0 + (2 ^ 32 - 1)) % 2 ^ 32 < 127 := by norm_num
  have hbelow : (input.readTagSlowly []).atOrBelowCutoff = false := by
    rw [readTagSlowly, hinput.tagAtEnd]
    exact decide_eq_false hcutoff
  have htag : (input.readTagSlowly []).tag = 0 := by
    rw [readTagSlowly, hinput.tagAtEnd]
  have hend : (input.readTagSlowly []).legitimateMessageEnd = true := by
    rw [readTagSlowly, hinput.tagAtEnd]
  rw [mergeRound, readTagWithCutoffNoLastTag]
  simp only [hbelow, htag, hend, Bool.false_eq_true, if_false, if_true]

theorem readLittleEndian32_bytesOf {word : Nat} (hword : word < 256 ^ 4)
    (rest : List UInt8) :
    input.readLittleEndian32 (bytesOf 4 word ++ rest) = some (word, rest) := by
  have hlength : (bytesOf 4 word).length = 4 := length_bytesOf 4 word
  have henough : 4 ≤ (bytesOf 4 word ++ rest).length := by
    rw [List.length_append]
    omega
  rw [readLittleEndian32, if_pos henough, List.take_left' hlength,
    List.drop_left' hlength, wordOf_bytesOf hword]

/-- The bytes of a `float` field set it, those of a zero do nothing. -/
theorem acts_floatEntry {entry : FloatEntry M} (hfield : entry.fieldNumber < 16)
    (hcase : selectField cases (makeTag entry.fieldNumber .fixed32) =
      some (input.readFloat entry.set)) :
    Acts (input.mergeLoop cases) entry.bytes entry.change := by
  obtain ⟨fieldNumber, set, value⟩ := entry
  unfold FloatEntry.bytes FloatEntry.change writeFloatField writeFloat
  by_cases hzero : (!value.isZero) = true
  · simp only [if_pos hzero]
    apply acts_of_round
    intro message rest
    have hread : (input.readFloat set).read message
        (bytesOf 4 value.toBits ++ rest) = (set message value, some rest) := by
      simp only [readFloat]
      rw [readLittleEndian32_bytesOf value.toBits_lt_binary32]
      simp only
      rw [BinaryFloat.ofBits_toBits (by decide)]
    rw [writeTag_eq hfield, mergeLoop_round]
    exact round_of_field (makeTag_pos _ _) (makeTag_lt hfield _) hcase hread
  · simp only [if_neg hzero]
    exact acts_nil

/-- The fields of a message are set one after the other. -/
theorem acts_floatEntries {entries : List (FloatEntry M)}
    (hentries : ∀ entry ∈ entries, entry.fieldNumber < 16 ∧
      selectField cases (makeTag entry.fieldNumber .fixed32) =
        some (input.readFloat entry.set)) :
    Acts (input.mergeLoop cases) (entries.flatMap FloatEntry.bytes)
      (fun message => entries.foldl (fun message entry => entry.change message)
        message) :=
  acts_flatMap fun entry hentry =>
    acts_floatEntry (hentries entry hentry).1 (hentries entry hentry).2

/-- A size that an `int` holds is read. -/
theorem readVarintSizeAsInt_writeVarint32 (hinput : input.Documented)
    {size : Nat} (hsmall : size < 2 ^ 31) (rest : List UInt8) :
    input.readVarintSizeAsInt (writeVarint32 size ++ rest) =
      some (size, rest) := by
  rw [writeVarint32, Nat.mod_eq_of_lt (by omega)]
  rcases Nat.lt_or_ge size 0x80 with honeByte | hmore
  · have hbyte : (UInt8.ofNat size).toNat = size := by
      rw [UInt8.toNat_ofNat']
      omega
    have hless : UInt8.ofNat size < 0x80 := by
      rw [UInt8.lt_iff_toNat_lt, hbyte]
      exact honeByte
    rw [varintOf_small honeByte, List.singleton_append, readVarintSizeAsInt,
      if_pos hless, hbyte]
  · have hbyte := toNat_or_continue size
    have hlarge : ¬ UInt8.ofNat (size ||| 0x80) < 0x80 := by
      rw [UInt8.lt_iff_toNat_lt, hbyte]
      show ¬ size % 0x80 + 0x80 < 0x80
      omega
    have hfallback := hinput.size size rest hmore hsmall
    rw [varintOf_large hmore, List.cons_append] at hfallback ⊢
    rw [readVarintSizeAsInt, if_neg hlarge, hfallback]

/-- The bytes of a message field are merged into the message of the field. -/
theorem acts_writeMessage (hinput : input.Documented) {fieldNumber : Nat}
    (hfield : fieldNumber < 16) {merge : N → List UInt8 → Merged N}
    (get : M → N) (put : M → N → M)
    (hcase : selectField cases (makeTag fieldNumber .lengthDelimited) =
      some (input.readMessage merge get put))
    {size : Nat} {bytes : List UInt8} (hsize : bytes.length = size)
    (hsmall : size < 2 ^ 31) {change : N → N}
    (hmerge : ∀ item, merge item bytes = .success (change item) true) :
    Acts (input.mergeLoop cases) (writeMessage fieldNumber size bytes)
      (fun message => put message (change (get message))) := by
  apply acts_of_round
  intro message rest
  have hread : (input.readMessage merge get put).read message
      (writeVarint32 size ++ bytes ++ rest) =
        (put message (change (get message)), some rest) := by
    simp only [readMessage]
    rw [List.append_assoc, readVarintSizeAsInt_writeVarint32 hinput hsmall]
    simp only
    rw [List.take_left' hsize, List.drop_left' hsize, hmerge]
  rw [writeMessage, writeTag_eq hfield, mergeLoop_round]
  exact round_of_field (makeTag_pos _ _) (makeTag_lt hfield _) hcase hread

end CodedInputStream

/-- A flat stream that knows varints, and no fields to skip. -/
def flatStream : CodedInputStream where
  readTagFallback bytes := (0, bytes.isEmpty, bytes)
  readTagFallback_shorter := by
    intro bytes htag
    exact absurd rfl htag
  readVarintSizeAsIntFallback := readVarint
  readVarintSizeAsIntFallback_le := fun hread => (readVarint_shorter hread).le
  readLittleEndian32Fallback _ := none
  readLittleEndian32Fallback_le := by
    intro _ _ _ hread
    cases hread
  skipField _ _ := none
  skipField_le := by
    intro _ _ _ hskip
    cases hskip

theorem documented_flatStream : flatStream.Documented where
  tagAtEnd := rfl
  size := fun size rest _ _ => readVarint_varintOf size rest

end Proto
end ImportDlibDemo
