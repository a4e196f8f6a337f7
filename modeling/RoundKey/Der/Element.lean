import RoundKey.Bytes

/-!
# Elements, read tolerantly

An element is a tag, a length and its contents. This reader allows more than one form of a tag
and of a length: a tag number may have leading zero bits, and a length may have leading zero
bytes. It looks at the number of a tag and passes over its class unless it is asked for it. An
element without a length of its own, which ends at a marker, can only be skipped.
-/
namespace RoundKey.Der

/-- The tag of an element. -/
structure Tag where
  /-- The class, from zero to three. -/
  family : Nat
  /-- Whether the contents are elements. -/
  constructed : Bool
  /-- The number in its class. -/
  number : Nat
deriving DecidableEq, Repr

namespace Tag

/-- The number of a truth value. -/
def boolean : Nat := 1

/-- The number of an integer. -/
def integer : Nat := 2

/-- The number of a bit string. -/
def bitString : Nat := 3

/-- The number of a byte string. -/
def octetString : Nat := 4

/-- The number of a sequence. -/
def sequence : Nat := 16

/-- The number of a time with a two-digit year. -/
def shortTime : Nat := 23

/-- The number of a time with a four-digit year. -/
def longTime : Nat := 24

/-- The class whose numbers depend on the place of the element. -/
def contextual : Nat := 2

/-- The number in the bytes after the first one, seven bits in each, of at most `left` bytes. -/
def readNumber : (left number : Nat) → List UInt8 → Option (Nat × List UInt8)
  | 0, _, _ => none
  | _ + 1, _, [] => none
  | left + 1, number, byte :: rest =>
    let next := (number * 128 + byte.toNat % 128) % UInt32.size
    if byte < 128 then some (next, rest) else readNumber left next rest

/-- The tag at the front. -/
def read : List UInt8 → Option (Tag × List UInt8)
  | [] => none
  | first :: rest =>
    let family := first.toNat / 64
    let constructed := first.toNat / 32 % 2 = 1
    let number := first.toNat % 32
    if number = 31 then
      (readNumber 5 0 rest).map fun (number, rest) => (⟨family, constructed, number⟩, rest)
    else some (⟨family, constructed, number⟩, rest)

end Tag

/-- How long the contents of an element are. -/
inductive Length where
  /-- This many bytes. -/
  | definite (size : Nat)
  /-- Up to a marker. -/
  | indefinite
deriving DecidableEq, Repr

/-- The length at the front. -/
def Length.read : List UInt8 → Option (Length × List UInt8)
  | [] => none
  | first :: rest =>
    if first < 128 then some (.definite first.toNat, rest)
    else if first = 128 then some (.indefinite, rest)
    else if first = 255 then none
    else
      let width := first.toNat - 128
      let size := ofBigEndian (rest.take width)
      if rest.length < width ∨ UInt64.size ≤ size then none
      else some (.definite size, rest.drop width)

/-- The first bytes, as many as asked for, and the others. -/
def split? (size : Nat) (bytes : List UInt8) : Option (List UInt8 × List UInt8) :=
  if size ≤ bytes.length then some (bytes.take size, bytes.drop size) else none

/-- The tag and the length at the front of an element whose length is given in advance. -/
def readHeader (bytes : List UInt8) : Option ((Tag × Nat) × List UInt8) :=
  match Tag.read bytes with
  | none => none
  | some (tag, rest) =>
    match Length.read rest with
    | some (.definite size, rest) => some ((tag, size), rest)
    | _ => none

/-- A tag and the contents under it. -/
structure Element where
  /-- The tag. -/
  tag : Tag
  /-- The contents. -/
  contents : List UInt8
deriving DecidableEq, Repr

namespace Element

/-- The element at the front. -/
def read (bytes : List UInt8) : Option (Element × List UInt8) :=
  match readHeader bytes with
  | none => none
  | some ((tag, size), rest) =>
    (split? size rest).map fun (contents, rest) => (⟨tag, contents⟩, rest)

/-- The contents of the element at the front, under a tag of this number. -/
def readNumbered (number : Nat) (bytes : List UInt8) : Option (List UInt8 × List UInt8) :=
  match read bytes with
  | none => none
  | some (element, rest) =>
    if element.tag.number = number then some (element.contents, rest) else none

/-- The contents of the element at the front, under a tag of this number, if they are no
elements. -/
def readPlain (number : Nat) (bytes : List UInt8) : Option (List UInt8 × List UInt8) :=
  match read bytes with
  | none => none
  | some (element, rest) =>
    if element.tag.number = number ∧ element.tag.constructed = false then
      some (element.contents, rest)
    else none

end Element

/-- The bytes after elements up to their end marker, at most `count` of them. -/
def skipUpToMarker (skipInner : List UInt8 → Option (List UInt8)) :
    (count : Nat) → List UInt8 → Option (List UInt8)
  | 0, _ => none
  | count + 1, bytes =>
    match Tag.read bytes with
    | none => none
    | some (tag, rest) =>
      match Length.read rest with
      | none => none
      | some (.definite 0, rest) =>
        if tag.number = 0 then some rest else skipUpToMarker skipInner count rest
      | some (.definite size, rest) =>
        match split? size rest with
        | none => none
        | some (_, rest) => skipUpToMarker skipInner count rest
      | some (.indefinite, rest) =>
        if tag.constructed then
          match skipInner rest with
          | none => none
          | some rest => skipUpToMarker skipInner count rest
        else none

/-- The bytes after elements up to their end marker, nested at most `depth` deep. -/
def skipNested : (depth : Nat) → List UInt8 → Option (List UInt8)
  | 0, _ => none
  | depth + 1, bytes => skipUpToMarker (skipNested depth) (bytes.length + 1) bytes

/-- How deep elements that end at a marker may be nested. -/
def nestingLimit : Nat := 49

/-- The bytes after an element under a tag of this number, whether or not its length is given in
advance. -/
def skipNumbered (number : Nat) (bytes : List UInt8) : Option (List UInt8) :=
  match Tag.read bytes with
  | none => none
  | some (tag, rest) =>
    if tag.number = number then
      match Length.read rest with
      | none => none
      | some (.definite size, rest) => (split? size rest).map Prod.snd
      | some (.indefinite, rest) => if tag.constructed then skipNested nestingLimit rest else none
    else none

/-- A string of bits: whole bytes, the last of which may end in bits that do not count. -/
structure BitString where
  /-- How many bits at the end do not count. -/
  unused : Nat
  /-- The bytes. -/
  bytes : List UInt8
deriving DecidableEq, Repr

namespace BitString

/-- The string that the contents of an element stand for. Bits that do not count are zero. -/
def ofContents? : List UInt8 → Option BitString
  | [] => none
  | unused :: bytes =>
    match bytes.getLast? with
    | none => if unused = 0 then some ⟨0, []⟩ else none
    | some last =>
      if unused.toNat ≤ 8 ∧ last.toNat % Nat.pow 2 unused.toNat = 0 then some ⟨unused.toNat, bytes⟩
      else none

/-- The string at the front. -/
def read (bytes : List UInt8) : Option (BitString × List UInt8) :=
  match Element.readPlain Tag.bitString bytes with
  | none => none
  | some (contents, rest) => (ofContents? contents).map fun bits => (bits, rest)

end BitString

end RoundKey.Der
