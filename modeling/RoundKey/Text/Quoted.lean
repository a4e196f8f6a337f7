import RoundKey.Bytes
import RoundKey.Text.Unprintable

/-!
# Quoted text in diagnostics

A text between double quotes on one line: quotes, backslashes and common controls have short
escapes, and every other character without a shape of its own is written by its code point.
-/
namespace RoundKey.Text

/-- A character inside a quoted text. -/
def quoteChar (character : Char) : List Char :=
  if character = '"' then ['\\', '"']
  else if character = '\\' then ['\\', '\\']
  else if character = '\n' then ['\\', 'n']
  else if character = '\r' then ['\\', 'r']
  else if character = '\t' then ['\\', 't']
  else if character = '\x00' then ['\\', '0']
  else if isUnprintable character then
    ['\\', 'u', '\x7b'] ++ Hex.digits character.toNat ++ ['\x7d']
  else [character]

/-- The characters of a text between double quotes. -/
def quoteChars (characters : List Char) : List Char :=
  '"' :: characters.flatMap quoteChar ++ ['"']

/-- A text between double quotes. -/
def quote (text : String) : String := String.ofList (quoteChars text.toList)

end RoundKey.Text
