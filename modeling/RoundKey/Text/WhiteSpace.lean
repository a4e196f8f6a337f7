/-!
# White space

The code points that Unicode counts as white space, as ranges in order.
-/
namespace RoundKey.Text

/-- Ranges of white space code points. -/
def whiteSpaceRanges : List (Nat × Nat) :=
  [(9, 13), (32, 32), (133, 133), (160, 160), (5760, 5760), (8192, 8202), (8232, 8233),
   (8239, 8239), (8287, 8287), (12288, 12288)]

/-- `char::is_whitespace` — whether a character is white space. -/
def isWhiteSpace (character : Char) : Bool :=
  whiteSpaceRanges.any fun range =>
    range.1 ≤ character.toNat && character.toNat ≤ range.2

/-- Every white space character of ASCII is in the table. -/
theorem isWhiteSpace_of_isWhitespace {character : Char} (blank : character.isWhitespace = true) :
    isWhiteSpace character = true := by
  simp only [Char.isWhitespace, Bool.or_eq_true, decide_eq_true_eq] at blank
  rcases blank with ((rfl | rfl) | rfl) | rfl <;> decide

end RoundKey.Text
