import RoundKey.Handshake
import RoundKey.Pin

/-!
# One certificate, read twice

The key that a peer is known by is read tolerantly, and the key that its handshake signature is
checked with is read strictly, from the same bytes. Where the strict reader finds an element, the
tolerant reader finds the same one with the same bytes after it, so where both find a key, it is
one key. A key whose algorithm is for another method than Ed25519 has a structure of its own and is
never pinned. So whoever opens a pinned channel has signed the handshake with the pinned key.
-/
namespace RoundKey

open Der

namespace Der

/-- The tag in one byte, whose number is below 31. -/
def Tag.ofByte (byte : UInt8) : Tag :=
  ⟨byte.toNat / 64, byte.toNat / 32 % 2 = 1, byte.toNat % 32⟩

/-- A tag in one byte is read tolerantly. -/
theorem Tag.read_cons {byte : UInt8} (short : byte.toNat % 32 ≠ 31) (rest : List UInt8) :
    Tag.read (byte :: rest) = some (Tag.ofByte byte, rest) := by
  rw [Tag.read, if_neg short, Tag.ofByte]

/-- What is read of a length in some bytes after its first one. -/
theorem Strict.readWide_eq_some {width least size : Nat} {bytes rest : List UInt8}
    (read : readWide width least bytes = some (size, rest)) :
    width ≤ bytes.length ∧ size = ofBigEndian (bytes.take width) ∧ rest = bytes.drop width := by
  unfold readWide at read
  dsimp only at read
  split at read
  · contradiction
  · next enough =>
    cases read
    exact ⟨by omega, rfl, rfl⟩

/-- A length in some bytes after its first one, of at most 126 bytes, is read tolerantly. -/
theorem Length.read_wide {first : UInt8} {width least size : Nat} {bytes rest : List UInt8}
    (marked : first.toNat = 128 + width) (wide : 0 < width ∧ width < 127)
    (read : Strict.readWide width least bytes = some (size, rest)) (small : size < UInt64.size) :
    Length.read (first :: bytes) = some (.definite size, rest) := by
  obtain ⟨enough, rfl, rfl⟩ := Strict.readWide_eq_some read
  have noShort : ¬first < 128 := by
    rw [UInt8.lt_iff_toNat_lt, marked]
    exact Nat.not_lt.mpr (Nat.le_add_right 128 width)
  have noMarker : first ≠ 128 := by
    rintro rfl
    have : (128 : UInt8).toNat = 128 := rfl
    omega
  have noReserved : first ≠ 255 := by
    rintro rfl
    have : (255 : UInt8).toNat = 255 := rfl
    omega
  have count : first.toNat - 128 = width := by omega
  have fits : ¬(bytes.length < width ∨ UInt64.size ≤ ofBigEndian (bytes.take width)) := by omega
  rw [Length.read, if_neg noShort, if_neg noMarker, if_neg noReserved]
  simp only [count, if_neg fits]

/-- A length that is read strictly is read tolerantly. -/
theorem Length.read_of_strict {bytes rest : List UInt8} {size : Nat}
    (read : Strict.readLength bytes = some (size, rest)) (small : size < UInt64.size) :
    Length.read bytes = some (.definite size, rest) := by
  cases bytes with
  | nil => contradiction
  | cons first bytes =>
    rw [Strict.readLength] at read
    split at read
    · next short =>
      cases read
      rw [Length.read, if_pos short]
    -- the four widths of a length after its first byte
    iterate 4
      split at read
      · next _ marked =>
        exact Length.read_wide (marked ▸ rfl) (by decide) read small
    · contradiction

/-- An element that is read strictly is read tolerantly, if the number of its tag is below 31. -/
theorem Element.read_of_strict {tag : UInt8} {bytes contents rest : List UInt8}
    (read : Strict.read tag bytes = some (contents, rest)) (short : tag.toNat % 32 ≠ 31) :
    Element.read bytes = some (⟨Tag.ofByte tag, contents⟩, rest) := by
  cases bytes with
  | nil => contradiction
  | cons first bytes =>
    rw [Strict.read] at read
    split at read
    · contradiction
    · next size later measured =>
      split at read
      · next fits =>
        obtain ⟨rfl, small, enough⟩ := fits
        cases read
        have small : size < UInt64.size := Nat.lt_trans small (by decide)
        have measured := Length.read_of_strict measured small
        simp only [Element.read, readHeader, Tag.read_cons short, measured, split?, if_pos enough,
          Option.map_some]
      · contradiction

/-- Skipping an element that can be read ends where reading it ends. -/
theorem skipNumbered_of_read {number : Nat} {bytes rest rest' : List UInt8} {element : Element}
    (read : Element.read bytes = some (element, rest))
    (skipped : skipNumbered number bytes = some rest') : rest' = rest := by
  unfold Element.read readHeader at read
  unfold skipNumbered at skipped
  cases tagged : Tag.read bytes with
  | none => simp [tagged] at read
  | some found =>
    obtain ⟨tag, later⟩ := found
    cases measured : Length.read later with
    | none => simp [tagged, measured] at read
    | some found =>
      obtain ⟨length, later⟩ := found
      cases length with
      | indefinite => simp [tagged, measured] at read
      | definite size =>
        simp only [tagged, measured, Option.map_eq_some_iff] at read skipped
        split at skipped
        · obtain ⟨parts, divided, same⟩ := read
          rw [divided] at skipped
          cases same
          exact (Option.some.inj skipped).symm
        · contradiction

/-- What is read under the number of a tag is the element that is there. -/
theorem Element.readNumbered_eq_some {number : Nat} {tag : Tag}
    {bytes contents contents' rest rest' : List UInt8}
    (read : Element.read bytes = some (⟨tag, contents⟩, rest))
    (found : readNumbered number bytes = some (contents', rest')) :
    contents' = contents ∧ rest' = rest := by
  unfold readNumbered at found
  rw [read] at found
  dsimp only at found
  split at found
  · cases found
    exact ⟨rfl, rfl⟩
  · contradiction

end Der

namespace Certificate

open Der

/-- A step of a strict reader that found something. -/
theorem expect_eq_ok {α : Type} {fault : CertificateFault} {found : Option α} {value : α} :
    expect fault found = .ok value ↔ found = some value := by
  cases found <;> simp [expect]

/-- What two steps give, the first of them gives to the second. -/
theorem bind_eq_ok {Fault α β : Type} {first : Except Fault α} {next : α → Except Fault β}
    {value : β} :
    first >>= next = .ok value ↔ ∃ found, first = .ok found ∧ next found = .ok value := by
  cases first with
  | error fault => simp [bind, Except.bind]
  | ok found => simp [bind, Except.bind]

/-- The tolerant reader passes over the version as the strict one does. -/
theorem skipVersion_agrees {bytes rest rest' : List UInt8}
    (strict : skipThirdVersion bytes = .ok rest) (tolerant : skipVersion bytes = some rest') :
    rest' = rest := by
  unfold skipThirdVersion at strict
  simp only [bind_eq_ok, expect_eq_ok] at strict
  obtain ⟨⟨contents, later⟩, part, ⟨number, after⟩, -, versioned⟩ := strict
  have read := Element.read_of_strict part (by decide)
  have same : later = rest := by
    dsimp only at versioned
    split at versioned
    · split at versioned
      · contradiction
      · split at versioned
        · exact Except.ok.inj versioned
        · contradiction
    · split at versioned <;> contradiction
    · contradiction
  subst same
  have versioned : (Tag.ofByte (Strict.part 0)).number = 0 ∧
      (Tag.ofByte (Strict.part 0)).family = Tag.contextual := by decide
  unfold skipVersion at tolerant
  rw [read] at tolerant
  simp only [versioned, ne_eq, not_true_eq_false, ↓reduceIte] at tolerant
  split at tolerant
  · contradiction
  · split at tolerant
    · exact (Option.some.inj tolerant).symm
    · contradiction

/-- The tolerant reader takes an algorithm for the identifier at the front of its contents. -/
theorem readAlgorithm_agrees {bytes contents identifier rest rest' : List UInt8}
    (strict : Strict.read Strict.sequence bytes = some (contents, rest))
    (tolerant : readAlgorithm bytes = some (identifier, rest')) :
    rest' = rest ∧ ∃ tag beside, Element.read contents = some (⟨tag, identifier⟩, beside) := by
  have read := Element.read_of_strict strict (by decide)
  unfold readAlgorithm at tolerant
  split at tolerant
  · contradiction
  · next found later numbered =>
    obtain ⟨rfl, rfl⟩ := Element.readNumbered_eq_some read numbered
    split at tolerant
    · contradiction
    · next element beside inside =>
      split at tolerant
      · cases tolerant
        exact ⟨rfl, element.tag, beside, inside⟩
      · contradiction

/-- The tolerant reader passes over a name as the strict one does. -/
theorem skipName_agrees {bytes contents rest rest' : List UInt8}
    (strict : Strict.read Strict.sequence bytes = some (contents, rest))
    (tolerant : skipName bytes = some rest') : rest' = rest := by
  have read := Element.read_of_strict strict (by decide)
  rw [skipName, Option.map_eq_some_iff] at tolerant
  obtain ⟨⟨found, later⟩, numbered, rfl⟩ := tolerant
  exact (Element.readNumbered_eq_some read numbered).2

/-- The tolerant reader passes over the times as the strict one does. -/
theorem skipTimes_agrees {bytes contents rest rest' : List UInt8}
    (strict : Strict.read Strict.sequence bytes = some (contents, rest))
    (tolerant : skipTimes bytes = some rest') : rest' = rest := by
  have read := Element.read_of_strict strict (by decide)
  unfold skipTimes at tolerant
  split at tolerant
  · contradiction
  · next found later numbered =>
    split at tolerant
    · contradiction
    · rw [Option.map_eq_some_iff] at tolerant
      obtain ⟨-, -, rfl⟩ := tolerant
      exact (Element.readNumbered_eq_some read numbered).2

/-- Bits that are read strictly all count, and are read tolerantly as the same bytes, all of whose
bits count. -/
theorem BitString.read_agrees {bytes key rest rest' : List UInt8} {bits : BitString}
    (strict : Strict.readWholeBits bytes = some (key, rest))
    (tolerant : BitString.read bytes = some (bits, rest')) : bits = ⟨0, key⟩ := by
  unfold Strict.readWholeBits at strict
  split at strict
  · next contents later whole =>
    cases strict
    have read := Element.read_of_strict whole (by decide)
    have plain : (Tag.ofByte Strict.bitString).number = Tag.bitString ∧
        (Tag.ofByte Strict.bitString).constructed = false := by decide
    unfold BitString.read Element.readPlain at tolerant
    simp only [read, plain, and_self, ↓reduceIte, Option.map_eq_some_iff] at tolerant
    obtain ⟨found, counted, same⟩ := tolerant
    cases same
    unfold BitString.ofContents? at counted
    dsimp only at counted
    split at counted
    · next last =>
      rw [List.getLast?_eq_none_iff] at last
      simp only [↓reduceIte, Option.some.injEq] at counted
      rw [← counted, last]
    · split at counted
      · exact (Option.some.inj counted).symm
      · contradiction
  · contradiction

/-- The key that a certificate presents is the one that its handshake signature is checked with,
all of whose bits count, for the algorithm at the front of the description of the key. -/
theorem readKey_agrees {bytes contents rest rest' : List UInt8} {info : KeyInfo}
    {presented : PresentedKey} (strict : Strict.read Strict.sequence bytes = some (contents, rest))
    (described : KeyInfo.ofContents contents = .ok info)
    (tolerant : readKey bytes = some (presented, rest')) :
    presented.bits = ⟨0, info.key⟩ ∧
      ∃ tag beside, Element.read info.algorithm = some (⟨tag, presented.algorithm⟩, beside) := by
  have read := Element.read_of_strict strict (by decide)
  unfold KeyInfo.ofContents at described
  simp only [bind_eq_ok, expect_eq_ok] at described
  obtain ⟨⟨algorithm, later⟩, named, ⟨key, after⟩, held, finished⟩ := described
  dsimp only at held finished
  split at finished
  · cases finished
    unfold readKey at tolerant
    split at tolerant
    · contradiction
    · next found beyond numbered =>
      obtain ⟨rfl, rfl⟩ := Element.readNumbered_eq_some read numbered
      split at tolerant
      · contradiction
      · next identifier later' recognized =>
        obtain ⟨rfl, inside⟩ := readAlgorithm_agrees named recognized
        rw [Option.map_eq_some_iff] at tolerant
        obtain ⟨⟨bits, last⟩, counted, same⟩ := tolerant
        cases same
        exact ⟨BitString.read_agrees held counted, inside⟩
  · contradiction

/-- Both readers find the key at the same place in the signed part of a certificate. -/
theorem describedKey_agrees {algorithm body contents : List UInt8} {presented : PresentedKey}
    (strict : describedKey algorithm body = .ok contents)
    (tolerant : keyOfBody? body = some presented) :
    ∃ bytes rest rest', Strict.read Strict.sequence bytes = some (contents, rest) ∧
      readKey bytes = some (presented, rest') := by
  unfold describedKey at strict
  simp only [bind_eq_ok, expect_eq_ok] at strict
  obtain ⟨afterVersion, version, ⟨_, afterSerial⟩, serial, ⟨signature, afterSignature⟩, signed,
    strict⟩ := strict
  dsimp only at signed strict
  split at strict
  · contradiction
  simp only [bind_eq_ok, expect_eq_ok] at strict
  obtain ⟨⟨_, afterIssuer⟩, issuer, ⟨_, afterTimes⟩, times, ⟨_, afterSubject⟩, subject,
    ⟨key, afterKey⟩, found, _, -, same⟩ := strict
  cases same
  simp only [keyOfBody?, bind, Option.bind_eq_some_iff] at tolerant
  obtain ⟨_, version', _, serial', ⟨_, _⟩, signed', _, issuer', _, times', _, subject',
    ⟨_, _⟩, found', ended⟩ := tolerant
  obtain rfl := skipVersion_agrees version version'
  obtain rfl := skipNumbered_of_read (Element.read_of_strict serial (by decide)) serial'
  obtain ⟨rfl, -⟩ := readAlgorithm_agrees signed signed'
  obtain rfl := skipName_agrees issuer issuer'
  obtain rfl := skipTimes_agrees times times'
  obtain rfl := skipName_agrees subject subject'
  dsimp only at ended
  split at ended
  · cases ended
    exact ⟨_, _, _, found, found'⟩
  · contradiction

/-- A certificate that both readers accept has one key: the bits that it presents all count and are
those that its handshake signature is checked with, and the algorithm that it presents is named at
the front of the description of the key. -/
theorem presentedBits_agree {certificate contents : List UInt8} {info : KeyInfo}
    {presented : PresentedKey} (strict : endEntity certificate = .ok contents)
    (described : KeyInfo.ofContents contents = .ok info)
    (tolerant : presentedKey? certificate = some presented) :
    presented.bits = ⟨0, info.key⟩ ∧
      ∃ tag beside, Element.read info.algorithm = some (⟨tag, presented.algorithm⟩, beside) := by
  unfold endEntity at strict
  simp only [bind_eq_ok, expect_eq_ok] at strict
  obtain ⟨whole, outer, ⟨body, afterBody⟩, inner, ⟨algorithm, _⟩, -, ⟨_, _⟩, -, strict⟩ := strict
  dsimp only at strict
  split at strict
  · have outer : ∃ rest, Strict.read Strict.sequence certificate = some (whole, rest) := by
      unfold Strict.readOnly at outer
      split at outer
      · next found => cases outer; exact ⟨[], found⟩
      · contradiction
    obtain ⟨rest, outer⟩ := outer
    simp only [presentedKey?, bind, Option.bind_eq_some_iff] at tolerant
    obtain ⟨⟨_, _⟩, outer', ⟨_, _⟩, inner', key, found, ⟨_, _⟩, -, _, -, same⟩ := tolerant
    cases same
    obtain ⟨rfl, -⟩ :=
      Element.readNumbered_eq_some (Element.read_of_strict outer (by decide)) outer'
    obtain ⟨rfl, -⟩ :=
      Element.readNumbered_eq_some (Element.read_of_strict inner (by decide)) inner'
    obtain ⟨bytes, _, _, key, key'⟩ := describedKey_agrees strict found
    exact readKey_agrees key described key'
  · contradiction

/-- A certificate that both readers accept has one key: the bytes that it presents are those that
its handshake signature is checked with, and the algorithm that it presents is named at the front
of the description of the key. -/
theorem presentedKey_agrees {certificate contents : List UInt8} {info : KeyInfo}
    {presented : PresentedKey} (strict : endEntity certificate = .ok contents)
    (described : KeyInfo.ofContents contents = .ok info)
    (tolerant : presentedKey? certificate = some presented) :
    presented.bits.bytes = info.key ∧
      ∃ tag beside, Element.read info.algorithm = some (⟨tag, presented.algorithm⟩, beside) := by
  obtain ⟨bits, identified⟩ := presentedBits_agree strict described tolerant
  exact ⟨congrArg BitString.bytes bits, identified⟩

end Certificate

end RoundKey
