import RoundKey.Json.Number

/-!
# Reading back numbers in JSON

A number of 32 bits is written in decimal digits without leading zeros, and is read back as a
whole number where no further digit, point or exponent follows.
-/
namespace RoundKey.Json

open RoundKey.Data

/-- No digit, point or exponent comes first, so a number in front ends here. -/
def EndsNumber (bytes : List UInt8) : Prop :=
  ∀ byte ∈ bytes.head?, isDigit byte = false ∧ byte ≠ 0x2E ∧ byte ≠ 0x65 ∧ byte ≠ 0x45

/-- The ASCII byte of a decimal digit. -/
def digitByte (digit : Char) : UInt8 := UInt8.ofNat digit.toNat

/-- The byte of a decimal digit is a digit and has its value. -/
theorem isDigit_digitByte {digit : Char} (decimal : digit.isDigit = true) :
    isDigit (digitByte digit) = true ∧ digitValue (digitByte digit) = digit.toNat - 48 := by
  obtain ⟨low, high⟩ := Char.isDigit_iff_toNat.mp decimal
  simp only [Char.reduceToNat] at low high
  have same : (digitByte digit).toNat = digit.toNat := by
    rw [digitByte, UInt8.toNat_ofNat', Nat.mod_eq_of_lt (by omega)]
  constructor
  · simp [isDigit, UInt8.le_iff_toNat_le, same, low, high]
  · simp [digitValue, same]

/-- The value of digits after a significand. -/
def digitsValue (significand : Nat) (digits : List UInt8) : Nat :=
  digits.foldl (fun value digit => value * 10 + digitValue digit) significand

/-- Further digits only raise a significand. -/
theorem le_digitsValue (significand : Nat) (digits : List UInt8) :
    significand ≤ digitsValue significand digits := by
  induction digits generalizing significand with
  | nil => exact Nat.le_refl _
  | cons digit digits ih =>
    have further := ih (significand * 10 + digitValue digit)
    rw [digitsValue, List.foldl_cons, ← digitsValue]
    omega

/-- Digits whose value stays within the limit are taken all. -/
theorem absorb_eq {significand : Nat} {digits : List UInt8} (taken : Nat)
    (within : digitsValue significand digits ≤ significandLimit) :
    absorb significand taken digits =
      (digitsValue significand digits, taken + digits.length, []) := by
  induction digits generalizing significand taken with
  | nil => rfl
  | cons digit digits ih =>
    rw [digitsValue, List.foldl_cons, ← digitsValue] at within ⊢
    have further := le_digitsValue (significand * 10 + digitValue digit) digits
    rw [absorb, if_neg (by omega), ih (taken + 1) within, List.length_cons]
    simp only [Prod.mk.injEq, and_true, true_and]
    omega

/-- A number is written in decimal digits. -/
theorem isDigit_of_mem_toDigits (number : Nat) :
    ∀ digit ∈ Nat.toDigits 10 number, digit.isDigit = true := fun _ inside =>
  Nat.isDigit_of_mem_toDigits (by decide) (by decide) inside

/-- The digits of a number have its value. -/
theorem digitsValue_toDigits (number : Nat) :
    digitsValue 0 ((Nat.toDigits 10 number).map digitByte) = number := by
  have read (digits : List Char) (decimal : ∀ digit ∈ digits, digit.isDigit = true)
      (significand : Nat) :
      digitsValue significand (digits.map digitByte) = Nat.ofDigitChars 10 digits significand := by
    induction digits generalizing significand with
    | nil => rfl
    | cons digit digits ih =>
      rw [List.forall_mem_cons] at decimal
      rw [List.map_cons, digitsValue, List.foldl_cons, ← digitsValue, ih decimal.2,
        Nat.ofDigitChars_cons, (isDigit_digitByte decimal.1).2, Nat.mul_comm]
      rfl
  rw [read _ (isDigit_of_mem_toDigits number), Nat.ofDigitChars_ten_toDigits]

/-- No number but zero is written with a zero in front. -/
theorem head_toDigits_ne {number : Nat} (positive : 0 < number) :
    (Nat.toDigits 10 number).head? ≠ some '0' := by
  induction number using Nat.strongRecOn with
  | ind number ih =>
    by_cases small : number < 10
    · rw [Nat.toDigits_of_lt_base small]
      have nonzero : ∀ digit : Fin 10, 0 < digit.val → digit.val.digitChar ≠ '0' := by decide
      simpa using nonzero ⟨number, small⟩ positive
    · have front := ih (number / 10) (by omega) (by omega)
      rw [Nat.toDigits_of_base_le (by decide) (by omega)]
      cases digits : Nat.toDigits 10 (number / 10) with
      | nil => exact absurd digits Nat.toDigits_ne_nil
      | cons first rest => simpa [digits] using front

/-- The digits of a number that start with a zero are that zero. -/
theorem length_toDigits_of_head {number : Nat}
    (head : ((Nat.toDigits 10 number).map digitByte).head? = some 0x30) :
    (Nat.toDigits 10 number).length = 1 := by
  rcases Nat.eq_zero_or_pos number with rfl | positive
  · rfl
  · rw [List.head?_map, Option.map_eq_some_iff] at head
    obtain ⟨digit, first, zero⟩ := head
    have decimal := isDigit_of_mem_toDigits number digit (List.mem_of_head? first)
    have value := (isDigit_digitByte decimal).2
    obtain ⟨low, high⟩ := Char.isDigit_iff_toNat.mp decimal
    rw [zero] at value
    have same : digit = '0' := by
      apply Char.toNat_inj.mp
      simp only [Char.reduceToNat, digitValue, UInt8.reduceToNat] at *
      omega
    exact absurd (same ▸ first) (head_toDigits_ne positive)

/-- Digits end where no further digit comes first. -/
theorem takeWhile_dropWhile_digits {digits : List Char} {rest : List UInt8}
    (decimal : ∀ digit ∈ digits, digit.isDigit = true) (ends : EndsNumber rest) :
    (digits.map digitByte ++ rest).takeWhile isDigit = digits.map digitByte ∧
      (digits.map digitByte ++ rest).dropWhile isDigit = rest := by
  have all : ∀ byte ∈ digits.map digitByte, isDigit byte = true :=
    List.forall_mem_map.mpr fun digit inside => (isDigit_digitByte (decimal digit inside)).1
  have stop : rest.takeWhile isDigit = [] ∧ rest.dropWhile isDigit = rest := by
    cases rest with
    | nil => exact ⟨rfl, rfl⟩
    | cons byte rest => simp [(ends byte rfl).1]
  rw [List.takeWhile_append_of_pos all, List.dropWhile_append_of_pos all, stop.1, stop.2]
  simp

/-- A number of 32 bits behind its sign is read back as that whole number. -/
theorem readUnsigned_writeWord (word : UInt32) {rest : List UInt8} (ends : EndsNumber rest) :
    readUnsigned false (writeWord word ++ rest) = .ok (.integer word.toNat, rest) := by
  obtain ⟨digits, left⟩ := takeWhile_dropWhile_digits (isDigit_of_mem_toDigits word.toNat) ends
  have value := digitsValue_toDigits word.toNat
  have within : word.toNat ≤ significandLimit :=
    Nat.le_of_lt (Nat.lt_trans word.toNat_lt (by decide))
  have taken := absorb_eq 0 (value.symm ▸ within)
  have nonempty : (Nat.toDigits 10 word.toNat).map digitByte ≠ [] := by simp
  have noZero : ¬(((Nat.toDigits 10 word.toNat).map digitByte).head? = some 0x30 ∧
      1 < ((Nat.toDigits 10 word.toNat).map digitByte).length) := by
    rintro ⟨head, long⟩
    rw [List.length_map, length_toDigits_of_head head] at long
    omega
  have written : writeWord word = (Nat.toDigits 10 word.toNat).map digitByte := rfl
  simp only [readUnsigned, written, digits, left, taken, value, if_neg nonempty, if_neg noZero]
  cases rest with
  | nil => rfl
  | cons byte rest =>
    obtain ⟨-, noPoint, noLower, noUpper⟩ := ends byte rfl
    split <;> simp_all [wholeNumber]

/-- A number of 32 bits is read back as that whole number. -/
theorem readNumber_writeWord (word : UInt32) {rest : List UInt8} (ends : EndsNumber rest) :
    readNumber (writeWord word ++ rest) = .ok (.integer word.toNat, rest) := by
  have unsigned := readUnsigned_writeWord word ends
  have written : writeWord word = (Nat.toDigits 10 word.toNat).map digitByte := rfl
  cases digits : Nat.toDigits 10 word.toNat with
  | nil => exact absurd digits Nat.toDigits_ne_nil
  | cons first later =>
    have decimal : isDigit (digitByte first) = true :=
      (isDigit_digitByte (isDigit_of_mem_toDigits word.toNat first (by simp [digits]))).1
    have noSign : digitByte first ≠ 0x2D := by
      intro sign
      rw [sign] at decimal
      exact absurd decimal (by decide)
    rw [written, digits] at unsigned ⊢
    rw [readNumber]
    · exact unsigned
    · simp_all

end RoundKey.Json
