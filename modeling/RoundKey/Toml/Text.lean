import RoundKey.Bytes

/-!
# Texts in TOML

A text is written in one of five forms: escaped or literal, on one line or on several, a literal
text on one line with one quote or with three. Reading undoes each form: the newline after the
quotes of several lines is not part of the text, up to two quotes may stand before the closing
ones, and a line break is a single character however it is coded.
-/
namespace RoundKey.Toml

/-- The result of reading from the front of some characters; nothing if they are malformed. -/
abbrev Read (α : Type) := Option (α × List Char)

/-- Whether a character may stand between tokens of a line. -/
def isBlank (character : Char) : Bool := character = ' ' || character = '\t'

/-- Whether a character is a control, which no form of a text shows as it is. -/
def isControl (character : Char) : Bool := character < ' ' || character = '\x7f'

/-- Whether a character may stand for itself in a text or a comment. -/
def isPlain (character : Char) : Bool := character = '\t' || !isControl character

/-- Put characters in front of a text that has been read. -/
def prepend (characters : List Char) : Read (List Char) → Read (List Char)
  | some (text, rest) => some (characters ++ text, rest)
  | none => none

/-- The number of hexadecimal digits. -/
def hexNumber? : (value : Nat) → List Char → Option Nat
  | value, [] => some value
  | value, digit :: digits =>
    match Hex.value? digit with
    | none => none
    | some next => hexNumber? (16 * value + next) digits

/-- The character of a code point in hexadecimal digits. -/
def hexChar? (digits : List Char) : Option Char :=
  match hexNumber? 0 digits with
  | none => none
  | some value => if value.isValidChar then some (Char.ofNat value) else none

/-- The character of a short escape. -/
def shortEscape? (character : Char) : Option Char :=
  if character = 'b' then some '\x08'
  else if character = 't' then some '\t'
  else if character = 'n' then some '\n'
  else if character = 'f' then some '\x0c'
  else if character = 'r' then some '\r'
  else if character = '"' then some '"'
  else if character = '\\' then some '\\'
  else none

/-- Whether characters begin with a line break. -/
def startsLine : List Char → Bool
  | '\n' :: _ => true
  | '\r' :: '\n' :: _ => true
  | _ => false

/-- The characters after a line break, if they begin with one. -/
def dropLineBreak : List Char → List Char
  | '\n' :: rest => rest
  | '\r' :: '\n' :: rest => rest
  | characters => characters

/-- The rest of an escaped text on one line. -/
def readEscaped : List Char → Read (List Char)
  | [] => none
  | '\\' :: 'u' :: a :: b :: c :: d :: rest =>
    match hexChar? [a, b, c, d] with
    | none => none
    | some character => prepend [character] (readEscaped rest)
  | '\\' :: 'U' :: a :: b :: c :: d :: e :: f :: g :: h :: rest =>
    match hexChar? [a, b, c, d, e, f, g, h] with
    | none => none
    | some character => prepend [character] (readEscaped rest)
  | '\\' :: escaped :: rest =>
    match shortEscape? escaped with
    | none => none
    | some character => prepend [character] (readEscaped rest)
  | character :: rest =>
    if character = '"' then some ([], rest)
    else if isPlain character && character != '\\' then
      prepend [character] (readEscaped rest)
    else none

/-- The quotes of a text that stand before three closing ones have been passed: at most two. -/
def closingQuotes (quote : Char) : List Char → List Char × List Char
  | first :: second :: rest =>
    if first = quote then
      if second = quote then ([quote, quote], rest) else ([quote], second :: rest)
    else ([], first :: second :: rest)
  | [first] => if first = quote then ([quote], []) else ([], [first])
  | [] => ([], [])

/-- The rest of an escaped text on several lines. After an escaped line break, blanks and line
breaks are skipped. -/
def readEscapedLines : (skipping : Bool) → List Char → Read (List Char)
  | _, [] => none
  | _, '"' :: '"' :: '"' :: rest => some (closingQuotes '"' rest)
  | _, '\\' :: 'u' :: a :: b :: c :: d :: rest =>
    match hexChar? [a, b, c, d] with
    | none => none
    | some character => prepend [character] (readEscapedLines false rest)
  | _, '\\' :: 'U' :: a :: b :: c :: d :: e :: f :: g :: h :: rest =>
    match hexChar? [a, b, c, d, e, f, g, h] with
    | none => none
    | some character => prepend [character] (readEscapedLines false rest)
  | _, '\\' :: escaped :: rest =>
    match shortEscape? escaped with
    | some character => prepend [character] (readEscapedLines false rest)
    | none =>
      if startsLine ((escaped :: rest).dropWhile isBlank) then
        readEscapedLines true (escaped :: rest)
      else none
  | skipping, '\r' :: '\n' :: rest =>
    if skipping then readEscapedLines true rest
    else prepend ['\n'] (readEscapedLines false rest)
  | skipping, character :: rest =>
    if skipping && (isBlank character || character = '\n') then readEscapedLines true rest
    else if isPlain character && character != '\\' || character = '\n' then
      prepend [character] (readEscapedLines false rest)
    else none

/-- The rest of a literal text on one line. -/
def readLiteral : List Char → Read (List Char)
  | [] => none
  | character :: rest =>
    if character = '\'' then some ([], rest)
    else if isPlain character then prepend [character] (readLiteral rest)
    else none

/-- The rest of a literal text on several lines. -/
def readLiteralLines : List Char → Read (List Char)
  | [] => none
  | '\'' :: '\'' :: '\'' :: rest => some (closingQuotes '\'' rest)
  | '\r' :: '\n' :: rest => prepend ['\n'] (readLiteralLines rest)
  | character :: rest =>
    if isPlain character || character = '\n' then
      prepend [character] (readLiteralLines rest)
    else none

/-- A text on one line, in either form. -/
def readLineText : List Char → Read (List Char)
  | '"' :: rest => readEscaped rest
  | '\'' :: rest => readLiteral rest
  | _ => none

/-- A text in any form. -/
def readText : List Char → Read (List Char)
  | '"' :: '"' :: '"' :: rest => readEscapedLines false (dropLineBreak rest)
  | '\'' :: '\'' :: '\'' :: rest => readLiteralLines (dropLineBreak rest)
  | characters => readLineText characters

/-- One character of an escaped text. A text on several lines keeps its line breaks. -/
def escapeChar (lines : Bool) (character : Char) : List Char :=
  if character = '\x08' then ['\\', 'b']
  else if character = '\t' then ['\\', 't']
  else if character = '\n' then if lines then ['\n'] else ['\\', 'n']
  else if character = '\x0c' then ['\\', 'f']
  else if character = '\r' then ['\\', 'r']
  else if character = '"' then ['\\', '"']
  else if character = '\\' then ['\\', '\\']
  else if isControl character then
    ['\\', 'u', '0', '0', (Hex.digit (character.toNat / 16)).toUpper,
      (Hex.digit (character.toNat % 16)).toUpper]
  else [character]

/-- Whether three of the quotes of a literal text stand together. -/
def hasQuoteRun : List Char → Bool
  | '\'' :: '\'' :: '\'' :: _ => true
  | _ :: rest => hasQuoteRun rest
  | [] => false

/-- Whether a text is written as a literal: it holds a backslash, and nothing in it needs an
escape or could be taken for the closing quotes. -/
def prefersLiteral (text : List Char) : Bool :=
  text.contains '\\' && text.all (fun character => isPlain character || character = '\n')
    && !hasQuoteRun text && text.getLast? != some '\''

/-- The form of a text. -/
def writeText (text : List Char) : List Char :=
  let lines := text.contains '\n'
  if prefersLiteral text then
    if lines then ['\'', '\'', '\'', '\n'] ++ text ++ ['\'', '\'', '\'']
    else if text.contains '\'' then ['\'', '\'', '\''] ++ text ++ ['\'', '\'', '\'']
    else '\'' :: text ++ ['\'']
  else if lines then
    ['"', '"', '"', '\n'] ++ text.flatMap (escapeChar true) ++ ['"', '"', '"']
  else '"' :: text.flatMap (escapeChar false) ++ ['"']

end RoundKey.Toml
