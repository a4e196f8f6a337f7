import Mathlib.Data.Bool.AllAny
import Mathlib.Tactic.SplitIfs
import RoundKey.Text.Quoted

/-!
# What a quoted text tells

A quoted text is read back character by character, so it ends where its closing quote is, whatever
follows it, and tells every character of the text. Every character of it has a shape of its own, so
it stays on one line and holds no control.
-/
namespace RoundKey

namespace Hex

/-- The number that hexadecimal digits stand for. -/
def number (digits : List Char) : Nat :=
  digits.foldl (fun value digit => 16 * value + (value? digit).getD 0) 0

/-- The value of the digit of a number below sixteen is that number. -/
theorem value?_digitChar {value : Nat} (small : value < 16) :
    value? value.digitChar = some value := by
  have all : ∀ small : Fin 16, value? small.val.digitChar = some small.val := by decide
  exact all ⟨value, small⟩

/-- The digits of a number stand for it. -/
theorem number_digits (value : Nat) : number (digits value) = value := by
  induction value using Nat.strongRecOn with
  | ind value ih =>
    rw [digits, Nat.toDigits_eq_if (by decide : 1 < 16)]
    by_cases small : value < 16
    · rw [if_pos small, number, List.foldl_cons, List.foldl_nil, value?_digitChar small]
      exact Nat.zero_add value
    · have last : value % 16 < 16 := Nat.mod_lt value (by decide)
      have front : number (Nat.toDigits 16 (value / 16)) = value / 16 := ih (value / 16) (by omega)
      rw [if_neg small, number, List.foldl_append, ← number, front, List.foldl_cons,
        List.foldl_nil, value?_digitChar last]
      show 16 * (value / 16) + value % 16 = value
      omega

/-- Every digit of a number is that of a number below sixteen. -/
theorem exists_of_mem_digits {value : Nat} {digit : Char} (inside : digit ∈ digits value) :
    ∃ small : Fin 16, digit = small.val.digitChar := by
  induction value using Nat.strongRecOn with
  | ind value ih =>
    rw [digits, Nat.toDigits_eq_if (by decide : 1 < 16)] at inside
    by_cases small : value < 16
    · rw [if_pos small, List.mem_singleton] at inside
      exact ⟨⟨value, small⟩, inside⟩
    · rw [if_neg small, List.mem_append, List.mem_singleton] at inside
      cases inside with
      | inl front => exact ih (value / 16) (by omega) front
      | inr last => exact ⟨⟨value % 16, Nat.mod_lt value (by decide)⟩, last⟩

/-- No digit of a number is the brace that ends a code point. -/
theorem ne_brace_of_mem_digits {value : Nat} {digit : Char} (inside : digit ∈ digits value) :
    digit ≠ '\x7d' := by
  have all : ∀ small : Fin 16, small.val.digitChar ≠ '\x7d' := by decide
  obtain ⟨small, rfl⟩ := exists_of_mem_digits inside
  exact all small

end Hex

namespace Text

/-- The first character of what a quoted text writes, and what follows it. There is none at the
closing quote. -/
def unquoteChar? : List Char → Option (Char × List Char)
  | '\\' :: '"' :: rest => some ('"', rest)
  | '\\' :: '\\' :: rest => some ('\\', rest)
  | '\\' :: 'n' :: rest => some ('\n', rest)
  | '\\' :: 'r' :: rest => some ('\r', rest)
  | '\\' :: 't' :: rest => some ('\t', rest)
  | '\\' :: '0' :: rest => some ('\x00', rest)
  | '\\' :: 'u' :: '\x7b' :: rest =>
    some (Char.ofNat (Hex.number (rest.takeWhile (· ≠ '\x7d'))),
      (rest.dropWhile (· ≠ '\x7d')).tail)
  | '\\' :: _ => none
  | '"' :: _ => none
  | character :: rest => some (character, rest)
  | [] => none

/-- A code point in braces is read as its character. -/
theorem unquoteChar?_codePoint (character : Char) (rest : List Char) :
    unquoteChar? (['\\', 'u', '\x7b'] ++ Hex.digits character.toNat ++ ['\x7d'] ++ rest) =
      some (character, rest) := by
  have plain : ∀ digit ∈ Hex.digits character.toNat, decide (digit ≠ '\x7d') = true := by
    intro digit inside
    exact decide_eq_true (Hex.ne_brace_of_mem_digits inside)
  have cut : (Hex.digits character.toNat ++ '\x7d' :: rest).takeWhile (· ≠ '\x7d') =
      Hex.digits character.toNat := by
    rw [List.takeWhile_append_of_pos plain]
    simp
  have left : (Hex.digits character.toNat ++ '\x7d' :: rest).dropWhile (· ≠ '\x7d') =
      '\x7d' :: rest := by
    rw [List.dropWhile_append_of_pos plain]
    simp
  simp only [List.cons_append, List.nil_append, List.append_assoc, unquoteChar?]
  rw [cut, left, Hex.number_digits, Char.ofNat_toNat, List.tail_cons]

/-- A character that needs no escape is read as itself. -/
theorem unquoteChar?_plain {character : Char} (noQuote : character ≠ '"')
    (noEscape : character ≠ '\\') (rest : List Char) :
    unquoteChar? (character :: rest) = some (character, rest) := by
  unfold unquoteChar?
  split <;> simp_all

/-- A character is read from what it is written as. -/
theorem unquoteChar?_quoteChar (character : Char) (rest : List Char) :
    unquoteChar? (quoteChar character ++ rest) = some (character, rest) := by
  unfold quoteChar
  split_ifs with quote escape feed back tab zero unprintable
  · rw [quote]; rfl
  · rw [escape]; rfl
  · rw [feed]; rfl
  · rw [back]; rfl
  · rw [tab]; rfl
  · rw [zero]; rfl
  · exact unquoteChar?_codePoint character rest
  · exact unquoteChar?_plain quote escape rest

/-- Quoted texts with something behind them are the same only of the same text, with the same behind
it. The induction is on the first text, and reading one character of both sides decides each step:
a quoted character is read back, and the closing quote is no character. -/
theorem quoteChars_append_inj {first second rest rest' : List Char} :
    quoteChars first ++ rest = quoteChars second ++ rest' ↔ first = second ∧ rest = rest' := by
  constructor
  · have body : ∀ first second : List Char,
        first.flatMap quoteChar ++ '"' :: rest = second.flatMap quoteChar ++ '"' :: rest' →
          first = second ∧ rest = rest' := by
      intro first
      induction first with
      | nil =>
        intro second same
        cases second with
        | nil => exact ⟨rfl, (List.cons.inj same).2⟩
        | cons character second =>
          rw [List.flatMap_cons, List.append_assoc] at same
          have read := unquoteChar?_quoteChar character (second.flatMap quoteChar ++ '"' :: rest')
          rw [← same] at read
          contradiction
      | cons character first ih =>
        intro second same
        rw [List.flatMap_cons, List.append_assoc] at same
        have read := unquoteChar?_quoteChar character (first.flatMap quoteChar ++ '"' :: rest)
        cases second with
        | nil =>
          rw [same] at read
          contradiction
        | cons other second =>
          rw [List.flatMap_cons, List.append_assoc] at same
          rw [same, unquoteChar?_quoteChar] at read
          have both := Prod.mk.inj (Option.some.inj read)
          have later := ih second both.2.symm
          exact ⟨by rw [both.1, later.1], later.2⟩
    intro same
    simp only [quoteChars, List.cons_append, List.append_assoc, List.nil_append] at same
    exact body first second (List.cons.inj same).2
  · intro same
    rw [same.1, same.2]

/-- A quoted text is that of one text only. -/
theorem quote_inj {first second : String} : quote first = quote second ↔ first = second := by
  have characters := @quoteChars_append_inj first.toList second.toList [] []
  rw [List.append_nil, List.append_nil, String.toList_inj] at characters
  rw [quote, quote, String.ofList_inj, characters]
  exact and_iff_left rfl

/-- Every character that writes a character has a shape of its own. -/
theorem isUnprintable_of_mem_quoteChar {character written : Char}
    (inside : written ∈ quoteChar character) : isUnprintable written = false := by
  have signs : ∀ sign ∈ ['\\', '"', '\\', 'n', 'r', 't', '0', 'u', '\x7b'],
      isUnprintable sign = false := List.all_iff_forall_prop.mp (by decide +kernel)
  have digits : ∀ small : Fin 16, isUnprintable small.val.digitChar = false := by decide +kernel
  have brace : isUnprintable '\x7d' = false := by decide +kernel
  unfold quoteChar at inside
  split_ifs at inside with quote escape feed back tab zero unprintable
  case pos | pos | pos | pos | pos | pos =>
    exact signs written (List.Sublist.subset (by decide) inside)
  · rw [List.mem_append, List.mem_append, List.mem_singleton] at inside
    rcases inside with (first | digit) | last
    · exact signs written (List.Sublist.subset (by decide) first)
    · obtain ⟨small, rfl⟩ := Hex.exists_of_mem_digits digit
      exact digits small
    · rw [last]
      exact brace
  · rw [List.mem_singleton.mp inside]
    simpa using unprintable

/-- Every character of a quoted text has a shape of its own. -/
theorem isUnprintable_of_mem_quoteChars {characters : List Char} {written : Char}
    (inside : written ∈ quoteChars characters) : isUnprintable written = false := by
  have mark : isUnprintable '"' = false := by decide +kernel
  rw [quoteChars, List.mem_append, List.mem_cons, List.mem_singleton, List.mem_flatMap] at inside
  rcases inside with (rfl | ⟨character, -, inside⟩) | rfl
  · exact mark
  · exact isUnprintable_of_mem_quoteChar inside
  · exact mark

end Text

end RoundKey
