/-!
# Byte strings

Numbers as bytes in both orders, byte strings of a fixed length, and lowercase hexadecimal
digits. The number forms read back below their width, and a fixed-length byte string carries
its length as a proof.
-/
namespace RoundKey

/-- The low `width` bytes of a number, least significant first. -/
def littleEndian : (width : Nat) → (value : Nat) → List UInt8
  | 0, _ => []
  | width + 1, value => UInt8.ofNat value :: littleEndian width (value / 256)

/-- The number whose bytes these are, least significant first. -/
def ofLittleEndian : List UInt8 → Nat
  | [] => 0
  | byte :: rest => byte.toNat + 256 * ofLittleEndian rest

/-- The low `width` bytes of a number, most significant first. -/
def bigEndian (width value : Nat) : List UInt8 :=
  (littleEndian width value).reverse

/-- The number whose bytes these are, most significant first. -/
def ofBigEndian (bytes : List UInt8) : Nat :=
  ofLittleEndian bytes.reverse

@[simp]
theorem length_littleEndian (width value : Nat) : (littleEndian width value).length = width := by
  induction width generalizing value with
  | zero => rfl
  | succ width ih => simp [littleEndian, ih]

@[simp]
theorem length_bigEndian (width value : Nat) : (bigEndian width value).length = width := by
  simp [bigEndian]

/-- A number below `256 ^ width` is read back from its `width` bytes. -/
theorem ofLittleEndian_littleEndian {width value : Nat} (small : value < Nat.pow 256 width) :
    ofLittleEndian (littleEndian width value) = value := by
  induction width generalizing value with
  | zero => simp at small; simp [littleEndian, ofLittleEndian, small]
  | succ width ih =>
    have quotient : value / 256 < Nat.pow 256 width := by
      have small : value < Nat.pow 256 width * 256 := small
      exact Nat.div_lt_of_lt_mul (by omega)
    simp only [littleEndian, ofLittleEndian, ih quotient, UInt8.toNat_ofNat']
    omega

/-- Every byte string is the bytes of its number. -/
theorem littleEndian_ofLittleEndian (bytes : List UInt8) :
    littleEndian bytes.length (ofLittleEndian bytes) = bytes := by
  induction bytes with
  | nil => rfl
  | cons byte rest ih =>
    have small := byte.toNat_lt_size
    simp only [UInt8.size] at small
    have low : UInt8.ofNat (byte.toNat + 256 * ofLittleEndian rest) = byte := by
      apply UInt8.toNat_inj.mp
      rw [UInt8.toNat_ofNat']
      omega
    have high : (byte.toNat + 256 * ofLittleEndian rest) / 256 = ofLittleEndian rest := by omega
    simp only [List.length_cons, littleEndian, ofLittleEndian, low, high, ih]

/-- A number below `256 ^ width` is read back from its `width` bytes in either order. -/
theorem ofBigEndian_bigEndian {width value : Nat} (small : value < Nat.pow 256 width) :
    ofBigEndian (bigEndian width value) = value := by
  simp [ofBigEndian, bigEndian, ofLittleEndian_littleEndian small]

/-- A byte string of a fixed length. -/
structure Octets (size : Nat) where
  /-- The bytes, in order. -/
  toList : List UInt8
  /-- There are exactly `size` of them. -/
  length_eq : toList.length = size
deriving DecidableEq

namespace Octets

variable {size : Nat}

/-- The bytes as a fixed-length string, if their number is right. -/
def ofList? (size : Nat) (bytes : List UInt8) : Option (Octets size) :=
  if h : bytes.length = size then some ⟨bytes, h⟩ else none

/-- All zero bytes. -/
def zero (size : Nat) : Octets size := ⟨List.replicate size 0, by simp⟩

/-- The low `size` bytes of a number, least significant first. -/
def ofNat (size value : Nat) : Octets size := ⟨littleEndian size value, by simp⟩

/-- The number whose bytes these are, least significant first. -/
def toNat (octets : Octets size) : Nat := ofLittleEndian octets.toList

@[ext]
theorem ext {first second : Octets size} (same : first.toList = second.toList) :
    first = second := by
  cases first; cases second; cases same; rfl

/-- Fixed-length byte strings are equal exactly if their bytes are. -/
@[simp]
theorem toList_inj {first second : Octets size} : first.toList = second.toList ↔ first = second :=
  ⟨ext, congrArg toList⟩

/-- Reading accepts exactly the byte strings of the right length, each as itself. -/
theorem ofList?_eq_some_iff {bytes : List UInt8} {octets : Octets size} :
    ofList? size bytes = some octets ↔ bytes = octets.toList := by
  constructor
  · intro read
    unfold ofList? at read
    split at read
    · cases read; rfl
    · cases read
  · rintro rfl
    simp [ofList?, octets.length_eq]

end Octets

namespace Hex

/-- The lowercase digit of a number below sixteen. -/
def digit (value : Nat) : Char :=
  if value < 10 then Char.ofNat (48 + value) else Char.ofNat (87 + value)

/-- The value of a hexadecimal digit of either case. -/
def value? (digit : Char) : Option Nat :=
  if '0' ≤ digit ∧ digit ≤ '9' then some (digit.toNat - 48)
  else if 'a' ≤ digit ∧ digit ≤ 'f' then some (digit.toNat - 87)
  else if 'A' ≤ digit ∧ digit ≤ 'F' then some (digit.toNat - 55)
  else none

/-- `HEXLOWER.encode` — two lowercase digits for each byte, high half first. -/
def encode (bytes : List UInt8) : String :=
  String.ofList (bytes.flatMap fun byte => [digit (byte.toNat / 16), digit (byte.toNat % 16)])

/-- The bytes written as pairs of digits. -/
def decodeDigits : List Char → Option (List UInt8)
  | [] => some []
  | [_] => none
  | high :: low :: rest => do
    let top ← value? high
    let bottom ← value? low
    let bytes ← decodeDigits rest
    some (UInt8.ofNat (16 * top + bottom) :: bytes)

/-- The bytes that a text of hexadecimal digits stands for. -/
def decode (text : String) : Option (List UInt8) := decodeDigits text.toList

/-- The lowercase digits of a number, without leading zeros; zero has one digit. -/
def digits (value : Nat) : List Char := (Nat.toDigits 16 value)

end Hex

end RoundKey
