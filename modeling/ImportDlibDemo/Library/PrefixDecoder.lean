import Mathlib.Data.List.Infix

/-!
# Decoders that read from the front of a stream

A decoder takes a value from the front of a byte sequence and leaves the rest.
It may also refuse the bytes, or lose all meaning on them.

`Decodes` says that a decoder belongs to an encoded value: behind the bytes it
finds the value whatever follows, and a stream that ends inside them is refused.
`Refuses` says that a decoder fails behind certain bytes.  The rules below derive
both for a sequence of decoders from its parts.
-/

namespace ImportDlibDemo
namespace Library
namespace PrefixDecoder

/-- What decoding comes to. -/
inductive Reading (ε α : Type*)
  | value (item : α) (rest : List UInt8)
  | failed (error : ε)
  | undefined
  deriving DecidableEq

/-- A function that reads from the front of the bytes. -/
abbrev Decoder (ε α : Type*) := List UInt8 → Reading ε α

variable {ε ε' α β : Type*}

/-- Read nothing. -/
def succeed (item : α) : Decoder ε α :=
  fun bytes => .value item bytes

/-- Go on with `next` behind what `first` has read; an error of `first` is
reported as `blame` says. -/
def andThen (first : Decoder ε α) (blame : ε → ε') (next : α → Decoder ε' β) :
    Decoder ε' β :=
  fun bytes =>
    match first bytes with
    | .value item rest => next item rest
    | .failed error => .failed (blame error)
    | .undefined => .undefined

/-- Report the errors of a decoder as `blame` says. -/
def mapError (blame : ε → ε') (first : Decoder ε α) : Decoder ε' α :=
  andThen first blame succeed

/-- The bytes are read as this item: whatever follows them is left, and without
all of them the decoder fails. -/
structure Decodes (decoder : Decoder ε α) (bytes : List UInt8) (item : α) :
    Prop where
  whole : ∀ rest, decoder (bytes ++ rest) = .value item rest
  cut : ∀ front, front <+: bytes → front ≠ bytes →
    ∃ error, decoder front = .failed error

theorem decodes_succeed (item : α) :
    Decodes (succeed item : Decoder ε α) [] item := by
  constructor
  · intro rest
    rfl
  · intro front hfront hne
    exact absurd (List.prefix_nil.mp hfront) hne

/-- In a sequence the stream may end inside the first part, or behind it inside
the second. -/
theorem Decodes.andThen {first : Decoder ε α} {blame : ε → ε'}
    {next : α → Decoder ε' β} {bytes more : List UInt8} {item : α}
    {result : β} (hfirst : Decodes first bytes item)
    (hnext : Decodes (next item) more result) :
    Decodes (andThen first blame next) (bytes ++ more) result := by
  constructor
  · intro rest
    rw [PrefixDecoder.andThen, List.append_assoc, hfirst.whole]
    exact hnext.whole rest
  · intro front hfront hne
    rw [PrefixDecoder.andThen]
    rcases List.prefix_or_prefix_of_prefix hfront (List.prefix_append bytes more)
      with hinside | ⟨tail, rfl⟩
    · by_cases hall : front = bytes
      · -- Nothing of the second part is there.
        subst hall
        have hmore : more ≠ [] := by
          rintro rfl
          exact hne (List.append_nil front).symm
        obtain ⟨error, herror⟩ := hnext.cut [] (List.nil_prefix) hmore.symm
        refine ⟨error, ?_⟩
        have hempty := hfirst.whole []
        rw [List.append_nil] at hempty
        rw [hempty]
        exact herror
      · obtain ⟨error, herror⟩ := hfirst.cut front hinside hall
        exact ⟨blame error, by rw [herror]⟩
    · have htail : tail <+: more := (List.prefix_append_right_inj bytes).mp hfront
      have htailne : tail ≠ more := fun hsame => hne (by rw [hsame])
      obtain ⟨error, herror⟩ := hnext.cut tail htail htailne
      exact ⟨error, by rw [hfirst.whole]; exact herror⟩

theorem Decodes.mapError {first : Decoder ε α} {blame : ε → ε'}
    {bytes : List UInt8} {item : α} (hfirst : Decodes first bytes item) :
    Decodes (mapError blame first) bytes item := by
  rw [← List.append_nil bytes]
  exact Decodes.andThen hfirst (decodes_succeed item)

/-- Behind the last part nothing more is read. -/
theorem Decodes.andThen_succeed {first : Decoder ε α} {blame : ε → ε'}
    {bytes : List UInt8} {item : α} (hfirst : Decodes first bytes item)
    (finish : α → β) :
    Decodes (PrefixDecoder.andThen first blame fun item => succeed (finish item))
      bytes (finish item) := by
  have hlast : Decodes (succeed (finish item) : Decoder ε' β) [] (finish item) :=
    decodes_succeed (finish item)
  rw [← List.append_nil bytes]
  exact Decodes.andThen hfirst hlast

/-- What one decoder reads from two streams that go on alike is alike, and so is
what is left. -/
theorem Decodes.unique {decoder : Decoder ε α} {bytes other : List UInt8}
    {item itemOther : α} (hdecodes : Decodes decoder bytes item)
    (hother : Decodes decoder other itemOther) {rest restOther : List UInt8}
    (hsame : bytes ++ rest = other ++ restOther) :
    item = itemOther ∧ rest = restOther := by
  have hread := hdecodes.whole rest
  rw [hsame, hother.whole] at hread
  cases hread
  exact ⟨rfl, rfl⟩

/-- The file is there, and begins with these bytes. -/
def HasWhole (contents : Option (List UInt8)) (bytes : List UInt8) : Prop :=
  ∃ behind, contents = some (bytes ++ behind)

/-- Of the beginnings of a file, perhaps a missing one, those with all of the bytes
are read, whatever the file holds behind them. -/
theorem Decodes.beginning {decoder : Decoder ε α} {bytes : List UInt8} {item : α}
    (hdecodes : Decodes decoder bytes item) {contents : Option (List UInt8)}
    {behind : List UInt8}
    (hbeginning : ∀ front, contents = some front → front <+: bytes ++ behind) :
    (HasWhole contents bytes ∧ ∀ front, contents = some front →
      ∃ rest, decoder front = .value item rest) ∨
      (¬ HasWhole contents bytes ∧ ∀ front, contents = some front →
        ∃ error, decoder front = .failed error) := by
  by_cases hwhole : HasWhole contents bytes
  · refine Or.inl ⟨hwhole, ?_⟩
    obtain ⟨rest, rfl⟩ := hwhole
    rintro _ ⟨⟩
    exact ⟨rest, hdecodes.whole rest⟩
  · refine Or.inr ⟨hwhole, ?_⟩
    rintro front rfl
    rcases List.prefix_or_prefix_of_prefix (hbeginning front rfl)
      (List.prefix_append bytes behind) with hinside | ⟨rest, rfl⟩
    · apply hdecodes.cut front hinside
      rintro rfl
      exact hwhole ⟨[], by rw [List.append_nil]⟩
    · exact absurd ⟨rest, rfl⟩ hwhole

/-- The bytes are refused with this error, whatever follows them. -/
def Refuses (decoder : Decoder ε α) (bytes : List UInt8) (error : ε) : Prop :=
  ∀ rest, decoder (bytes ++ rest) = .failed error

theorem Decodes.andThen_refuses {first : Decoder ε α} {blame : ε → ε'}
    {next : α → Decoder ε' β} {bytes more : List UInt8} {item : α} {error : ε'}
    (hfirst : Decodes first bytes item) (hnext : Refuses (next item) more error) :
    Refuses (PrefixDecoder.andThen first blame next) (bytes ++ more) error := by
  intro rest
  rw [PrefixDecoder.andThen, List.append_assoc, hfirst.whole]
  exact hnext rest

/-- Behind a part that is refused nothing is read. -/
theorem Refuses.andThen {first : Decoder ε α} {blame : ε → ε'}
    {next : α → Decoder ε' β} {bytes : List UInt8} {error : ε}
    (hfirst : Refuses first bytes error) :
    Refuses (PrefixDecoder.andThen first blame next) bytes (blame error) := by
  intro rest
  rw [PrefixDecoder.andThen, hfirst rest]

end PrefixDecoder
end Library
end ImportDlibDemo
