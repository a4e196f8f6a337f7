import RoundKey.Json.Text

/-!
# Reading back texts in JSON

Every byte of a text is written as itself or as an escape, and reading undoes it, whatever
follows. So a text between quotes is read back whole, with the bytes after its closing quote left.
-/
namespace RoundKey.Json

/-- Four digits that write a control character have its number. -/
theorem unit?_control {byte : UInt8} (control : byte < 0x20) :
    unit? 0x30 0x30 (hexDigit (byte / 16)) (hexDigit (byte % 16)) = some byte.toNat := by
  have all : ∀ value : Fin 32, unit? 0x30 0x30 (hexDigit (UInt8.ofNat value.val / 16))
      (hexDigit (UInt8.ofNat value.val % 16)) = some value.val := by decide
  simpa using all ⟨byte.toNat, UInt8.lt_iff_toNat_lt.mp control⟩

/-- Reading undoes the form of one byte. -/
theorem readBytes_escapeByte (byte : UInt8) (rest : List UInt8) :
    readBytes (escapeByte byte ++ rest) = prepend [byte] (readBytes rest) := by
  unfold escapeByte
  -- the seven short escapes
  iterate 7
    split
    · subst_vars; rfl
  split
  · next control =>
    have small : byte.toNat < 32 := UInt8.lt_iff_toNat_lt.mp control
    have low : isLowSurrogate byte.toNat = false := by simp [isLowSurrogate]; omega
    have high : isHighSurrogate byte.toNat = false := by simp [isHighSurrogate]; omega
    have same : codePoint byte.toNat = [byte] := by
      rw [codePoint, Text.utf8EncodeChar_of_lt (by omega), UInt8.ofNat_toNat]
    simp [readBytes, unit?_control control, low, high, same]
  · next quote backslash _ _ _ _ _ control =>
    rw [List.singleton_append, readBytes.eq_def]
    split <;> simp_all [← UInt8.not_le]

/-- Reading undoes the form of bytes up to the closing quote. -/
theorem readBytes_flatMap_escapeByte (bytes rest : List UInt8) :
    readBytes (bytes.flatMap escapeByte ++ 0x22 :: rest) = .ok (bytes, rest) := by
  induction bytes with
  | nil => rfl
  | cons byte bytes ih =>
    rw [List.flatMap_cons, List.append_assoc, readBytes_escapeByte, ih]
    rfl

/-- A text behind its opening quote is read back. -/
theorem readText_utf8 (text : String) (rest : List UInt8) :
    readText ((Text.utf8 text).flatMap escapeByte ++ 0x22 :: rest) = .ok (text, rest) := by
  simp [readText, readBytes_flatMap_escapeByte]

end RoundKey.Json
