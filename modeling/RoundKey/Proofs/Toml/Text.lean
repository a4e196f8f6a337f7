import Mathlib.Tactic.SplitIfs
import RoundKey.Toml.Text

/-!
# Reading back texts in TOML

Whatever form a text is written in, reading undoes it, as long as no quote follows. An escaped
character is read on its own, on one line as on several. A literal text holds no three quotes
together and does not end in one, so the first three quotes after it are the closing ones, and the
only line break that is dropped is the one that was put behind the opening quotes.
-/
namespace RoundKey.Toml

/-- The digits that write a control character are read as that character. -/
theorem hexChar?_control {character : Char} (control : isControl character = true) :
    hexChar? ['0', '0', (Hex.digit (character.toNat / 16)).toUpper,
      (Hex.digit (character.toNat % 16)).toUpper] = some character := by
  have all : ∀ value : Fin 128,
      hexChar? ['0', '0', (Hex.digit (value.val / 16)).toUpper,
        (Hex.digit (value.val % 16)).toUpper] = some (Char.ofNat value.val) := by decide +kernel
  have small : character.toNat < 128 := by
    rw [isControl, Bool.or_eq_true, decide_eq_true_eq, decide_eq_true_eq] at control
    rcases control with below | rfl
    · have below : character.toNat < ' '.toNat := below
      exact Nat.lt_trans below (by decide)
    · decide
  have found := all ⟨character.toNat, small⟩
  rwa [Char.ofNat_toNat] at found

/-- Reading undoes the form of one character on a line. -/
theorem readEscaped_escapeChar (character : Char) (rest : List Char) :
    readEscaped (escapeChar false character ++ rest) = prepend [character] (readEscaped rest) := by
  unfold escapeChar
  -- the seven short escapes
  iterate 7
    split
    · subst_vars; rfl
  split
  · next control =>
    simp only [List.cons_append, List.nil_append, readEscaped, hexChar?_control control]
  · next quote backslash plain =>
    rw [List.singleton_append, readEscaped.eq_def]
    split <;> simp_all [isPlain]

/-- Reading undoes the form of one character on several lines. -/
theorem readEscapedLines_escapeChar (character : Char) (rest : List Char) :
    readEscapedLines false (escapeChar true character ++ rest) =
      prepend [character] (readEscapedLines false rest) := by
  unfold escapeChar
  iterate 7
    split
    · subst_vars; rfl
  split
  · next control =>
    simp only [List.cons_append, List.nil_append, readEscapedLines, hexChar?_control control]
  · next quote backslash plain =>
    rw [List.singleton_append, readEscapedLines.eq_def]
    split <;> simp_all [isPlain]

/-- Reading undoes the forms of characters on a line up to the closing quote. -/
theorem readEscaped_flatMap_escapeChar (text rest : List Char) :
    readEscaped (text.flatMap (escapeChar false) ++ '"' :: rest) = some (text, rest) := by
  induction text with
  | nil => rfl
  | cons character text ih =>
    rw [List.flatMap_cons, List.append_assoc, readEscaped_escapeChar, ih]
    rfl

/-- There are no quotes to be read where none stands. -/
theorem closingQuotes_of_ne {quote : Char} {rest : List Char}
    (noQuote : rest.head? ≠ some quote) : closingQuotes quote rest = ([], rest) := by
  match rest, noQuote with
  | [], _ => rfl
  | [first], noQuote =>
    have other : first ≠ quote := fun same => noQuote (congrArg some same)
    rw [closingQuotes, if_neg other]
  | first :: second :: rest, noQuote =>
    have other : first ≠ quote := fun same => noQuote (congrArg some same)
    rw [closingQuotes, if_neg other]

/-- Reading undoes the forms of characters on several lines up to the closing quotes. -/
theorem readEscapedLines_flatMap_escapeChar (text : List Char) {rest : List Char}
    (noQuote : rest.head? ≠ some '"') :
    readEscapedLines false (text.flatMap (escapeChar true) ++ '"' :: '"' :: '"' :: rest) =
      some (text, rest) := by
  induction text with
  | nil => rw [List.flatMap_nil, List.nil_append, readEscapedLines, closingQuotes_of_ne noQuote]
  | cons character text ih =>
    rw [List.flatMap_cons, List.append_assoc, readEscapedLines_escapeChar, ih]
    rfl

/-- A literal text without quotes is read up to the closing quote. -/
theorem readLiteral_append {text : List Char} (plain : ∀ character ∈ text, isPlain character = true)
    (unquoted : '\'' ∉ text) (rest : List Char) :
    readLiteral (text ++ '\'' :: rest) = some (text, rest) := by
  induction text with
  | nil => rfl
  | cons character text ih =>
    rw [List.forall_mem_cons] at plain
    rw [List.mem_cons, not_or] at unquoted
    rw [List.cons_append, readLiteral, if_neg (Ne.symm unquoted.1), if_pos plain.1,
      ih plain.2 unquoted.2]
    rfl

/-- A character that is no quote in a run of three stands for itself in a literal text on several
lines. -/
theorem readLiteralLines_cons {character : Char} {rest : List Char}
    (shown : isPlain character = true ∨ character = '\n')
    (noRun : ∀ later, character :: rest ≠ '\'' :: '\'' :: '\'' :: later) :
    readLiteralLines (character :: rest) = prepend [character] (readLiteralLines rest) := by
  have noReturn : character ≠ '\r' := by
    rintro rfl
    exact absurd shown (by decide)
  rw [readLiteralLines.eq_def]
  split
  · next same => exact absurd same (List.cons_ne_nil character rest)
  · next later same => exact absurd same (noRun later)
  · next same => exact absurd (List.cons.inj same).1 noReturn
  · next same =>
    cases same
    rw [if_pos (by simpa using shown)]

/-- A text that holds no three quotes together and does not end in one does not begin with three
quotes either when the closing ones are put behind it. -/
theorem ne_quoteRun {text : List Char} (nonempty : text ≠ []) (noRun : hasQuoteRun text = false)
    (noEnd : text.getLast? ≠ some '\'') (closed later : List Char) :
    text ++ closed ≠ '\'' :: '\'' :: '\'' :: later := by
  match text, nonempty with
  | [first], _ => rintro same; simp_all
  | [first, second], _ => rintro same; simp_all
  | first :: second :: third :: text, _ =>
    intro same
    simp only [List.cons_append, List.cons.injEq] at same
    obtain ⟨rfl, rfl, rfl, -⟩ := same
    exact absurd noRun (by simp [hasQuoteRun])

/-- A literal text on several lines is read up to the closing quotes. -/
theorem readLiteralLines_append {text : List Char}
    (shown : ∀ character ∈ text, isPlain character = true ∨ character = '\n')
    (noRun : hasQuoteRun text = false) (noEnd : text.getLast? ≠ some '\'') {rest : List Char}
    (noQuote : rest.head? ≠ some '\'') :
    readLiteralLines (text ++ '\'' :: '\'' :: '\'' :: rest) = some (text, rest) := by
  induction text with
  | nil => rw [List.nil_append, readLiteralLines, closingQuotes_of_ne noQuote]
  | cons character text ih =>
    have here := ne_quoteRun (List.cons_ne_nil character text) noRun noEnd
      ('\'' :: '\'' :: '\'' :: rest)
    rw [List.forall_mem_cons] at shown
    have noRunLater : hasQuoteRun text = false := by
      rw [hasQuoteRun.eq_def] at noRun
      split at noRun <;> simp_all
    have noEndLater : text.getLast? ≠ some '\'' := by
      cases text with
      | nil => simp
      | cons next text => simpa using noEnd
    rw [List.cons_append] at here ⊢
    rw [readLiteralLines_cons shown.1 here, ih shown.2 noRunLater noEndLater]
    rfl

/-- The form of a character does not begin with a quote. -/
theorem head?_escapeChar (lines : Bool) (character : Char) :
    ∃ first, (escapeChar lines character).head? = some first ∧ first ≠ '"' := by
  by_cases quote : character = '"'
  · subst quote
    exact ⟨'\\', rfl, by decide⟩
  · unfold escapeChar
    split_ifs <;> simp [quote]

/-- The forms of characters do not begin with a quote. -/
theorem head?_flatMap_escapeChar (lines : Bool) (text : List Char) :
    (text.flatMap (escapeChar lines)).head? ≠ some '"' := by
  cases text with
  | nil => simp
  | cons character text =>
    obtain ⟨first, form, other⟩ := head?_escapeChar lines character
    simp [List.head?_append, form, other]

/-- An escaped text on one line is told from one on several. -/
theorem readText_escaped (text : List Char) {rest : List Char}
    (noQuote : rest.head? ≠ some '"') :
    readText ('"' :: (text.flatMap (escapeChar false) ++ '"' :: rest)) = some (text, rest) := by
  have read := readEscaped_flatMap_escapeChar text rest
  have noRun (later : List Char) :
      text.flatMap (escapeChar false) ++ '"' :: rest ≠ '"' :: '"' :: later := by
    have front := head?_flatMap_escapeChar false text
    cases form : text.flatMap (escapeChar false) with
    | nil =>
      rintro same
      exact noQuote (by rw [(List.cons.inj same).2]; rfl)
    | cons first forms =>
      rw [form] at front
      rintro same
      exact front (congrArg some (List.cons.inj same).1)
  rw [readText.eq_def]
  split
  · next later same => exact absurd (List.cons.inj same).2 (noRun later)
  · next same => exact absurd (List.cons.inj same).1 (by decide)
  · exact read

/-- A literal text on one line is told from one on several: it is not empty. -/
theorem readText_literal {text : List Char} (plain : ∀ character ∈ text, isPlain character = true)
    (unquoted : '\'' ∉ text) (nonempty : text ≠ []) (rest : List Char) :
    readText ('\'' :: (text ++ '\'' :: rest)) = some (text, rest) := by
  have read := readLiteral_append plain unquoted rest
  obtain ⟨first, later, rfl⟩ := List.exists_cons_of_ne_nil nonempty
  have other : first ≠ '\'' := fun same => unquoted (same ▸ List.mem_cons_self)
  rw [readText.eq_def]
  split
  · next same => exact absurd (List.cons.inj same).1 (by decide)
  · next same => exact absurd (List.cons.inj (List.cons.inj same).2).1 other
  · exact read

/-- A text keeps its first line break if none was put in front of it. -/
theorem dropLineBreak_append {text : List Char}
    (plain : ∀ character ∈ text, isPlain character = true) (nonempty : text ≠ [])
    (rest : List Char) : dropLineBreak (text ++ rest) = text ++ rest := by
  obtain ⟨first, later, rfl⟩ := List.exists_cons_of_ne_nil nonempty
  have shown : isPlain first = true := plain first List.mem_cons_self
  rw [List.cons_append, dropLineBreak.eq_def]
  split
  · next same =>
    rw [(List.cons.inj same).1] at shown
    exact absurd shown (by decide)
  · next same =>
    rw [(List.cons.inj same).1] at shown
    exact absurd shown (by decide)
  · rfl

/-- A literal text holds a backslash, shows all its characters, and cannot be taken for its closing
quotes. -/
theorem prefersLiteral_iff {text : List Char} :
    prefersLiteral text = true ↔
      '\\' ∈ text ∧ (∀ character ∈ text, isPlain character = true ∨ character = '\n') ∧
        hasQuoteRun text = false ∧ text.getLast? ≠ some '\'' := by
  simp [prefersLiteral, and_assoc]

/-- A text is read back from its form, whatever the form is, unless a quote follows. -/
theorem readText_writeText (text : List Char) {rest : List Char}
    (noQuote : rest.head? ≠ some '"') (noMark : rest.head? ≠ some '\'') :
    readText (writeText text ++ rest) = some (text, rest) := by
  cases literal : prefersLiteral text with
  | true =>
    obtain ⟨backslash, shown, noRun, noEnd⟩ := prefersLiteral_iff.mp literal
    have nonempty : text ≠ [] := List.ne_nil_of_mem backslash
    have read := readLiteralLines_append shown noRun noEnd noMark
    cases lines : text.contains '\n' with
    | true =>
      simp only [writeText, literal, lines, ↓reduceIte, List.cons_append, List.nil_append,
        List.append_assoc, readText, dropLineBreak, read]
    | false =>
      have noBreak : '\n' ∉ text := by simpa using lines
      have plain : ∀ character ∈ text, isPlain character = true := fun character inside =>
        (shown character inside).resolve_right fun same => noBreak (same ▸ inside)
      cases quoted : text.contains '\'' with
      | true =>
        have kept := dropLineBreak_append plain nonempty ('\'' :: '\'' :: '\'' :: rest)
        simp only [writeText, literal, lines, quoted, ↓reduceIte, Bool.false_eq_true,
          List.cons_append, List.nil_append, List.append_assoc, readText, kept, read]
      | false =>
        have unquoted : '\'' ∉ text := by simpa using quoted
        simp only [writeText, literal, lines, quoted, ↓reduceIte, Bool.false_eq_true,
          List.cons_append, List.nil_append, List.append_assoc,
          readText_literal plain unquoted nonempty rest]
  | false =>
    cases lines : text.contains '\n' with
    | true =>
      have read := readEscapedLines_flatMap_escapeChar text noQuote
      simp only [writeText, literal, lines, ↓reduceIte, Bool.false_eq_true, List.cons_append,
        List.nil_append, List.append_assoc, readText, dropLineBreak, read]
    | false =>
      simp only [writeText, literal, lines, ↓reduceIte, Bool.false_eq_true, List.cons_append,
        List.nil_append, List.append_assoc, readText_escaped text noQuote]

end RoundKey.Toml
