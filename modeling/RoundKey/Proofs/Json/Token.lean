import RoundKey.Proofs.Json.Grammar
import RoundKey.Proofs.Json.Record

/-!
# Reading texts and numbers of the grammar

A text is read up to its closing quote and a number up to where it ends, wherever they stand.
Skimming passes every text and every number. Reading may refuse one, for what is in it and not for
what comes after it: a text for an escape that is half of a pair, or for bytes that are no text, and
a number for being too large.
-/
namespace RoundKey.Json

open RoundKey.Data

/-- What is done to an outcome is done to what there is of it. -/
theorem toOption_map {ε α β : Type} (outcome : Except ε α) (turn : α → β) :
    (outcome.map turn).toOption = outcome.toOption.map turn := by
  cases outcome <;> rfl

/-- What is prepended to a text is prepended to what is read of it. -/
theorem toOption_prepend (bytes : List UInt8) (read : Read (List UInt8)) :
    (prepend bytes read).toOption =
      read.toOption.map fun found => (bytes ++ found.1, found.2) := by
  cases read <;> rfl

/-- A byte that stands for itself is read as itself. -/
theorem IsPlain.readBytes_cons {byte : UInt8} (isPlain : IsPlain byte) (rest : List UInt8) :
    readBytes (byte :: rest) = prepend [byte] (readBytes rest) := by
  obtain ⟨high, noQuote, noBackslash⟩ := isPlain
  rw [readBytes.eq_def]
  split <;> simp_all [← UInt8.not_le]

/-- A byte that stands for itself is passed. -/
theorem IsPlain.skimText_cons {byte : UInt8} (isPlain : IsPlain byte) (rest : List UInt8) :
    skimText (byte :: rest) = skimText rest := by
  obtain ⟨high, noQuote, noBackslash⟩ := isPlain
  rw [skimText.eq_def]
  split <;> simp_all [← UInt8.not_le]

/-- A short escape is read as the byte it stands for. -/
theorem readBytes_short {letter byte : UInt8} (known : (letter, byte) ∈ shortEscapes)
    (rest : List UInt8) :
    readBytes (0x5C :: letter :: rest) = prepend [byte] (readBytes rest) := by
  simp only [shortEscapes, List.mem_cons, Prod.mk.injEq, List.not_mem_nil, or_false] at known
  rcases known with ⟨rfl, rfl⟩ | ⟨rfl, rfl⟩ | ⟨rfl, rfl⟩ | ⟨rfl, rfl⟩ | ⟨rfl, rfl⟩ | ⟨rfl, rfl⟩ |
    ⟨rfl, rfl⟩ | ⟨rfl, rfl⟩ <;> rfl

/-- A short escape is passed. -/
theorem skimText_short {letter byte : UInt8} (known : (letter, byte) ∈ shortEscapes)
    (rest : List UInt8) : skimText (0x5C :: letter :: rest) = skimText rest := by
  simp only [shortEscapes, List.mem_cons, Prod.mk.injEq, List.not_mem_nil, or_false] at known
  rcases known with ⟨rfl, rfl⟩ | ⟨rfl, rfl⟩ | ⟨rfl, rfl⟩ | ⟨rfl, rfl⟩ | ⟨rfl, rfl⟩ | ⟨rfl, rfl⟩ |
    ⟨rfl, rfl⟩ | ⟨rfl, rfl⟩ <;> rfl

/-- The letter of a short escape is not that of the long ones. -/
theorem ne_of_mem_shortEscapes {letter byte : UInt8} (known : (letter, byte) ∈ shortEscapes) :
    letter ≠ 0x75 := by
  rintro rfl
  simp [shortEscapes] at known

/-- What is spelled is read. -/
theorem Spells.readBytes_append {text form : List UInt8} (spells : Spells text form)
    (rest : List UInt8) : readBytes (form ++ 0x22 :: rest) = .ok (text, rest) := by
  induction spells with
  | nil => rfl
  | plain isPlain _ ih =>
    rw [List.cons_append, isPlain.readBytes_cons, ih]
    rfl
  | short known _ ih =>
    rw [List.cons_append, List.cons_append, readBytes_short known, ih]
    rfl
  | unit digits notLow notHigh _ ih =>
    simp [readBytes, digits, notLow, notHigh, ih, prepend]
  | @pair _ _ _ _ _ _ _ _ first second _ _ digits digits' isHigh isLow _ ih =>
    have notLow : isLowSurrogate first = false := by
      simp [isLowSurrogate, isHighSurrogate] at isHigh ⊢
      omega
    simp [readBytes, digits, digits', notLow, isHigh, isLow, ih, prepend]

/-- The first half of a pair stands in front of the second half, or it is refused whatever comes
after it. -/
theorem IsTextForm.low_or_refused {form : List UInt8} (isText : IsTextForm form)
    {a b c d : UInt8} {first : Nat} (digits : unit? a b c d = some first)
    (low : isLowSurrogate first = false) (high : isHighSurrogate first = true) :
    (∃ e f g h second later, form = 0x5C :: 0x75 :: e :: f :: g :: h :: later ∧
        unit? e f g h = some second ∧ isLowSurrogate second = true ∧ IsTextForm later) ∨
      ∀ rest, (readBytes (0x5C :: 0x75 :: a :: b :: c :: d :: (form ++ 0x22 :: rest))).toOption =
        none := by
  cases isText with
  | nil =>
    right
    intro rest
    simp [readBytes, digits, low, high, Except.toOption]
  | @plain byte _ isPlain later =>
    right
    intro rest
    have noBackslash : byte ≠ 0x5C := isPlain.2.2
    simp only [List.cons_append, readBytes, digits, low, high]
    split <;> simp_all [Except.toOption]
  | @short letter _ _ known later =>
    right
    intro rest
    have other := ne_of_mem_shortEscapes known
    simp only [List.cons_append, readBytes, digits, low, high]
    split <;> simp_all [Except.toOption]
  | @unit e f g h second form digits' later =>
    by_cases isLow : isLowSurrogate second = true
    · exact .inl ⟨e, f, g, h, second, form, rfl, digits', isLow, later⟩
    · right
      intro rest
      simp [readBytes, digits, digits', low, high, isLow, Except.toOption]

/-- A form between quotes spells something, or it is refused whatever comes after it. -/
theorem IsTextForm.spells_or_refused {form : List UInt8} (isText : IsTextForm form) :
    (∃ text, Spells text form) ∨ ∀ rest, (readBytes (form ++ 0x22 :: rest)).toOption = none := by
  -- A pair of long escapes is read in one step, so the induction is on the length.
  induction length : form.length using Nat.strongRecOn generalizing form with
  | ind count ih =>
    subst length
    cases isText with
    | nil => exact .inl ⟨[], .nil⟩
    | plain isPlain later =>
      rcases ih _ (by simp) later rfl with ⟨text, spells⟩ | refused
      · exact .inl ⟨_, .plain isPlain spells⟩
      · right
        intro rest
        rw [List.cons_append, isPlain.readBytes_cons, toOption_prepend, refused rest,
          Option.map_none]
    | short known later =>
      rcases ih _ (by simp only [List.length_cons]; omega) later rfl with ⟨text, spells⟩ | refused
      · exact .inl ⟨_, .short known spells⟩
      · right
        intro rest
        rw [List.cons_append, List.cons_append, readBytes_short known, toOption_prepend,
          refused rest, Option.map_none]
    | @unit a b c d first form digits later =>
      cases low : isLowSurrogate first with
      | true =>
        right
        intro rest
        simp [readBytes, digits, low, Except.toOption]
      | false =>
        cases high : isHighSurrogate first with
        | false =>
          rcases ih _ (by simp only [List.length_cons]; omega) later rfl with
            ⟨text, spells⟩ | refused
          · exact .inl ⟨_, .unit digits low high spells⟩
          · right
            intro rest
            simp [readBytes, digits, low, high, toOption_prepend, refused rest]
        | true =>
          rcases later.low_or_refused digits low high with
            ⟨e, f, g, h, second, form, rfl, digits', isLow, later⟩ | refused
          · rcases ih _ (by simp only [List.length_cons]; omega) later rfl with
              ⟨text, spells⟩ | refused
            · exact .inl ⟨_, .pair digits digits' high isLow spells⟩
            · right
              intro rest
              simp [readBytes, digits, digits', low, high, isLow, toOption_prepend, refused rest]
          · exact .inr refused

/-- A text is passed up to its closing quote. -/
theorem IsTextForm.skimText_append {form : List UInt8} (isText : IsTextForm form)
    (rest : List UInt8) : skimText (form ++ 0x22 :: rest) = .ok rest := by
  induction isText with
  | nil => rfl
  | plain isPlain _ ih => rw [List.cons_append, isPlain.skimText_cons, ih]
  | short known _ ih => rw [List.cons_append, List.cons_append, skimText_short known, ih]
  | unit digits _ ih => simp [skimText, digits, ih]

/-- Digits are taken up to where no digit follows. -/
theorem IsDigits.span_append {digits rest : List UInt8} (areDigits : IsDigits digits)
    (ends : ∀ byte ∈ rest.head?, isDigit byte = false) :
    (digits ++ rest).takeWhile isDigit = digits ∧ (digits ++ rest).dropWhile isDigit = rest := by
  have stop : rest.takeWhile isDigit = [] ∧ rest.dropWhile isDigit = rest := by
    cases rest with
    | nil => exact ⟨rfl, rfl⟩
    | cons byte rest => simp [ends byte rfl]
  rw [List.takeWhile_append_of_pos areDigits.2, List.dropWhile_append_of_pos areDigits.2, stop.1,
    stop.2, List.append_nil]
  exact ⟨rfl, rfl⟩

/-- No digit comes first where a number ends. -/
theorem EndsNumber.isDigit_eq_false {rest : List UInt8} (ends : EndsNumber rest) :
    ∀ byte ∈ rest.head?, isDigit byte = false := fun byte head => (ends byte head).1

/-- Digits begin with a digit. -/
theorem IsDigits.exists_cons {digits : List UInt8} (areDigits : IsDigits digits) :
    ∃ first later, digits = first :: later ∧ isDigit first = true := by
  obtain ⟨nonempty, all⟩ := areDigits
  cases digits with
  | nil => contradiction
  | cons first later => exact ⟨first, later, rfl, all first List.mem_cons_self⟩

/-- The sign of an exponent is told from its digits. -/
theorem exponentSign_append {sign digits : List UInt8}
    (known : sign = [] ∨ sign = [0x2B] ∨ sign = [0x2D]) (areDigits : IsDigits digits)
    (rest : List UInt8) :
    exponentSign (sign ++ (digits ++ rest)) = (decide (sign = [0x2D]), digits ++ rest) := by
  obtain ⟨first, later, rfl, decimal⟩ := areDigits.exists_cons
  rcases known with rfl | rfl | rfl
  · have noPlus : first ≠ 0x2B := by rintro rfl; contradiction
    have noMinus : first ≠ 0x2D := by rintro rfl; contradiction
    rw [List.nil_append, List.cons_append, exponentSign.eq_def]
    split <;> simp_all
  · rfl
  · rfl

/-- Behind what is no exponent, no digit comes first either. -/
theorem IsExponent.isDigit_eq_false {exponent rest : List UInt8} (isExponent : IsExponent exponent)
    (ends : EndsNumber rest) : ∀ byte ∈ (exponent ++ rest).head?, isDigit byte = false := by
  rcases isExponent with rfl | ⟨letter, sign, digits, rfl, rfl | rfl, -, -⟩
  · exact ends.isDigit_eq_false
  · rintro _ ⟨⟩
    rfl
  · rintro _ ⟨⟩
    rfl

/-- Behind the whole part of a number, no digit comes first. -/
theorem IsFraction.isDigit_eq_false {fraction exponent rest : List UInt8}
    (isFraction : IsFraction fraction) (isExponent : IsExponent exponent)
    (ends : EndsNumber rest) :
    ∀ byte ∈ (fraction ++ (exponent ++ rest)).head?, isDigit byte = false := by
  rcases isFraction with rfl | ⟨digits, rfl, -⟩
  · exact isExponent.isDigit_eq_false ends
  · rintro _ ⟨⟩
    rfl

/-- An exponent is passed. -/
theorem IsExponent.skimScaled_append {exponent rest : List UInt8}
    (isExponent : IsExponent exponent) (ends : EndsNumber rest) :
    skimScaled (exponent ++ rest) = .ok rest := by
  rcases isExponent with rfl | ⟨letter, sign, digits, rfl, isLetter, isSign, areDigits⟩
  · cases rest with
    | nil => rfl
    | cons byte rest =>
      obtain ⟨-, -, noLower, noUpper⟩ := ends byte rfl
      rw [List.nil_append, skimScaled.eq_def]
      split <;> simp_all
  · obtain ⟨taken, left⟩ := areDigits.span_append ends.isDigit_eq_false
    have passed : skimExponent (sign ++ (digits ++ rest)) = .ok rest := by
      simp [skimExponent, exponentSign_append isSign areDigits, taken, left, areDigits.1]
    rw [List.cons_append, List.append_assoc]
    rcases isLetter with rfl | rfl <;> exact passed

/-- Behind what is no fraction, no point comes first. -/
theorem IsExponent.head?_ne_point {exponent rest : List UInt8} (isExponent : IsExponent exponent)
    (ends : EndsNumber rest) : (exponent ++ rest).head? ≠ some 0x2E := by
  rcases isExponent with rfl | ⟨letter, sign, digits, rfl, rfl | rfl, -, -⟩
  · exact fun head => (ends _ head).2.1 rfl
  · simp
  · simp

/-- The whole part of a number has no zero in front of another digit. -/
theorem IsWhole.not_zero {whole : List UInt8} (isWhole : IsWhole whole) :
    ¬(whole.head? = some 0x30 ∧ 1 < whole.length) := by
  rintro ⟨zero, long⟩
  rw [isWhole.2 zero] at long
  exact absurd long (by decide)

/-- A number is passed. -/
theorem IsNumber.skimNumber_append {form rest : List UInt8} (isNumber : IsNumber form)
    (ends : EndsNumber rest) : skimNumber (form ++ rest) = .ok rest := by
  obtain ⟨sign, whole, fraction, exponent, rfl, isSign, isWhole, isFraction, isExponent⟩ := isNumber
  obtain ⟨taken, left⟩ :=
    isWhole.1.span_append (isFraction.isDigit_eq_false isExponent ends)
  have unsigned : skimNumber (0x2D :: (whole ++ (fraction ++ (exponent ++ rest)))) = .ok rest := by
    simp only [skimNumber, taken, left, if_neg isWhole.1.1, if_neg isWhole.not_zero]
    split
    · next after point =>
      rcases isFraction with rfl | ⟨digits, rfl, areDigits⟩
      · exact absurd (congrArg List.head? point) (isExponent.head?_ne_point ends)
      · obtain ⟨taken, left⟩ := areDigits.span_append (isExponent.isDigit_eq_false ends)
        cases point
        simp [taken, left, areDigits.1, isExponent.skimScaled_append ends]
    · next noPoint =>
      rcases isFraction with rfl | ⟨digits, rfl, -⟩
      · exact isExponent.skimScaled_append ends
      · exact absurd rfl (noPoint _)
  rcases isSign with rfl | rfl
  · obtain ⟨first, later, rfl, decimal⟩ := isWhole.1.exists_cons
    have noMinus : first ≠ 0x2D := by rintro rfl; contradiction
    rw [skimNumber] at unsigned
    rw [List.nil_append, List.append_assoc, List.append_assoc, skimNumber]
    · exact unsigned
    · simp [noMinus]
  · simpa using unsigned

/-- A reader that finds the same at a form, whatever comes after it as long as it ends a number, and
leaves what comes after. -/
def Settles {α : Type} (read : List UInt8 → Read α) (form : List UInt8) : Prop :=
  ∀ rest, EndsNumber rest →
    (read (form ++ rest)).toOption = (read form).toOption.map fun found => (found.1, rest)

/-- A reader settles where its outcome does not depend on what comes after. -/
theorem settles_of_outcome {α : Type} {read : List UInt8 → Read α} {form : List UInt8}
    (outcome : Option α) (reads : ∀ rest, EndsNumber rest →
      (read (form ++ rest)).toOption = outcome.map fun value => (value, rest)) :
    Settles read form := by
  intro rest ends
  have alone := reads [] (by simp [EndsNumber])
  rw [List.append_nil] at alone
  rw [reads rest ends, alone, Option.map_map]
  rfl

/-- The number with an exponent, if there is one, does not depend on what comes after. -/
theorem IsExponent.readScaled_append {exponent : List UInt8} (isExponent : IsExponent exponent)
    (negative : Bool) (significand : Nat) (power : Int) :
    ∃ outcome : Except Fault Found, ∀ rest, EndsNumber rest →
      readScaled negative significand power (exponent ++ rest) =
        outcome.map fun found => (found, rest) := by
  rcases isExponent with rfl | ⟨letter, sign, digits, rfl, isLetter, isSign, areDigits⟩
  · refine ⟨(scale significand power).map fun value => .float ⟨negative, value⟩, ?_⟩
    intro rest ends
    have plain : readScaled negative significand power rest =
        (scale significand power).map fun value => (.float ⟨negative, value⟩, rest) := by
      cases rest with
      | nil => rfl
      | cons byte rest =>
        obtain ⟨-, -, noLower, noUpper⟩ := ends byte rfl
        rw [readScaled.eq_def]
        split <;> simp_all
    rw [List.nil_append, plain]
    cases scale significand power <;> rfl
  · refine ⟨(scaleBy significand power (decide (sign = [0x2D])) digits).map fun value =>
      .float ⟨negative, value⟩, ?_⟩
    intro rest ends
    obtain ⟨taken, left⟩ := areDigits.span_append ends.isDigit_eq_false
    have read : readExponent negative significand power (sign ++ (digits ++ rest)) =
        (scaleBy significand power (decide (sign = [0x2D])) digits).map fun value =>
          (.float ⟨negative, value⟩, rest) := by
      simp only [readExponent, exponentSign_append isSign areDigits, taken, left,
        if_neg areDigits.1]
    have same : readScaled negative significand power (letter :: (sign ++ digits) ++ rest) =
        readExponent negative significand power (sign ++ (digits ++ rest)) := by
      rw [List.cons_append, List.append_assoc]
      rcases isLetter with rfl | rfl <;> rfl
    rw [same, read]
    cases scaleBy significand power (decide (sign = [0x2D])) digits <;> rfl

/-- The number behind its sign does not depend on what comes after. -/
theorem readUnsigned_append {whole fraction exponent : List UInt8} (isWhole : IsWhole whole)
    (isFraction : IsFraction fraction) (isExponent : IsExponent exponent) (negative : Bool) :
    ∃ outcome : Except Fault Found, ∀ rest, EndsNumber rest →
      readUnsigned negative (whole ++ (fraction ++ (exponent ++ rest))) =
        outcome.map fun found => (found, rest) := by
  obtain ⟨significand, count, later, absorbed⟩ : ∃ significand count later,
      absorb 0 0 whole = (significand, count, later) := ⟨_, _, _, rfl⟩
  have span (rest : List UInt8) (ends : EndsNumber rest) :=
    isWhole.1.span_append (isFraction.isDigit_eq_false isExponent ends)
  obtain ⟨scaled, readsScaled⟩ :=
    isExponent.readScaled_append negative significand later.length
  rcases isFraction with rfl | ⟨digits, rfl, areDigits⟩
  · refine ⟨if exponent = [] ∧ later = [] then .ok (wholeNumber negative significand) else scaled,
      fun rest ends => ?_⟩
    obtain ⟨taken, left⟩ := span rest ends
    simp only [List.nil_append] at taken left ⊢
    have reads := readsScaled rest ends
    simp only [readUnsigned, taken, left, absorbed, if_neg isWhole.1.1, if_neg isWhole.not_zero]
    rcases isExponent with rfl | ⟨letter, sign, digits, rfl, isLetter, -, -⟩
    · rw [List.nil_append] at reads
      by_cases whole : later = []
      · subst whole
        cases rest with
        | nil => rfl
        | cons byte rest =>
          obtain ⟨-, noPoint, noLower, noUpper⟩ := ends byte rfl
          split <;> simp_all [Except.map]
      · cases rest with
        | nil => simpa [whole] using reads
        | cons byte rest =>
          obtain ⟨-, noPoint, noLower, noUpper⟩ := ends byte rfl
          split <;> simp_all
    · have present : ¬(letter :: (sign ++ digits) = [] ∧ later = []) := by simp
      rw [if_neg present]
      rcases isLetter with rfl | rfl <;> exact reads
  · obtain ⟨significand', count', rest', absorbed'⟩ : ∃ significand' count' rest',
        absorb significand 0 digits = (significand', count', rest') := ⟨_, _, _, rfl⟩
    obtain ⟨outcome, reads⟩ :=
      isExponent.readScaled_append negative significand' (later.length - count')
    refine ⟨outcome, fun rest ends => ?_⟩
    obtain ⟨taken, left⟩ := span rest ends
    obtain ⟨taken', left'⟩ := areDigits.span_append (isExponent.isDigit_eq_false ends)
    rw [← reads rest ends]
    rw [List.cons_append] at taken left ⊢
    simp only [readUnsigned, taken, left, absorbed, if_neg isWhole.1.1, if_neg isWhole.not_zero,
      readFraction, taken', left', absorbed', if_neg areDigits.1]

/-- What a number is does not depend on what comes after. -/
theorem IsNumber.settles_readNumber {form : List UInt8} (isNumber : IsNumber form) :
    Settles readNumber form := by
  obtain ⟨sign, whole, fraction, exponent, rfl, isSign, isWhole, isFraction, isExponent⟩ := isNumber
  obtain ⟨outcome, reads⟩ :=
    readUnsigned_append isWhole isFraction isExponent (decide (sign = [0x2D]))
  apply settles_of_outcome outcome.toOption
  intro rest ends
  have same : readNumber (sign ++ (whole ++ (fraction ++ exponent)) ++ rest) =
      readUnsigned (decide (sign = [0x2D])) (whole ++ (fraction ++ (exponent ++ rest))) := by
    simp only [List.append_assoc]
    rcases isSign with rfl | rfl
    · obtain ⟨first, later, rfl, decimal⟩ := isWhole.1.exists_cons
      have noMinus : first ≠ 0x2D := by rintro rfl; contradiction
      rw [List.nil_append, List.cons_append, readNumber]
      · rfl
      · simp [noMinus]
    · rfl
  rw [same, reads rest ends]
  cases outcome <;> rfl

/-- Whether a text is refused does not depend on what comes after. -/
theorem IsTextForm.settles_readText {form : List UInt8} (isText : IsTextForm form) :
    Settles readText (form ++ [0x22]) := by
  rcases isText.spells_or_refused with ⟨text, spells⟩ | refused
  · apply settles_of_outcome (Text.ofUtf8? text)
    intro rest _
    have joined : form ++ [0x22] ++ rest = form ++ 0x22 :: rest := by simp
    rw [joined, readText, spells.readBytes_append rest]
    cases found : Text.ofUtf8? text <;> simp [found, Except.toOption]
  · apply settles_of_outcome none
    intro rest _
    have joined : form ++ [0x22] ++ rest = form ++ 0x22 :: rest := by simp
    have failed := refused rest
    rw [joined, readText]
    cases read : readBytes (form ++ 0x22 :: rest) with
    | error fault => rfl
    | ok found =>
      rw [read] at failed
      contradiction

end RoundKey.Json
