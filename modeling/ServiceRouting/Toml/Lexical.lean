import ServiceRouting.Text.Digits
import ServiceRouting.Text.Scan

/-!
# Blanks, line ends and texts

The lexical forms of TOML documents that stand for no value, and the four forms of a text: on one
line or on several, with escapes or without.
-/

set_option autoImplicit false

namespace ServiceRouting

namespace Toml

open Scan

/-! ## Between values -/

def isBlank (char : Char) : Bool :=
  char == ' ' || char == '\t'

/-- A character that may stand as itself in a comment or a text. -/
def isPlain (char : Char) : Bool :=
  char == '\t' || (0x20 ≤ char.toNat && char.toNat != 0x7f)

def blanks : Scan Unit := do
  let _ ← charsOf isBlank

def newline : Scan Unit :=
  char '\n' <|> chars ['\r', '\n']

def comment : Scan Unit := do
  char '#'
  let _ ← charsOf isPlain

/-- What may follow on a line that says all it has to say. -/
def lineEnd : Scan Unit := do
  blanks
  let _ ← optional comment
  newline <|> endOfText

/-- Blanks, line ends and comments in any order. -/
def spacing : Scan Unit := do
  blanks
  let _ ← many (do
    let _ ← optional comment
    newline
    blanks)

/-! ## Escapes -/

/-- A fixed count of digits of a kind. -/
def digits (isDigit : Char → Bool) : Nat → Scan (List Char)
  | 0 => return []
  | count + 1 => do
    let first ← satisfy isDigit
    let later ← digits isDigit count
    return first :: later

/-- A character given by its code point; surrogates are no characters. -/
def codePoint (count : Nat) : Scan Char := do
  let found ← digits Digits.isHex count
  Digits.scalar? (Digits.number 16 found)

/-- What follows the backslash of an escape. -/
def escaped : Scan Char := do
  match ← satisfy fun _ => true with
  | 'b' => return '\x08'
  | 'f' => return '\x0c'
  | 'n' => return '\n'
  | 'r' => return '\r'
  | 't' => return '\t'
  | '"' => return '"'
  | '\\' => return '\\'
  | 'u' => codePoint 4
  | 'U' => codePoint 8
  | _ => failure

def escape : Scan (List Char) := do
  char '\\'
  let found ← escaped
  return [found]

/-- A backslash at the end of a line takes all white space up to the next text with it. -/
def joinedLines : Scan (List Char) := do
  char '\\'
  blanks
  newline
  blanks
  let _ ← many (newline *> blanks)
  return []

/-! ## Texts -/

def quotedPlain (char : Char) : Bool :=
  isPlain char && char != '"' && char != '\\'

def literalPlain (char : Char) : Bool :=
  isPlain char && char != '\''

def basicText : Scan String := do
  char '"'
  let pieces ← many (someCharsOf quotedPlain <|> escape)
  char '"'
  return String.ofList pieces.flatten

def literalText : Scan String := do
  char '\''
  let body ← charsOf literalPlain
  char '\''
  return String.ofList body

/-- One or two quotes belong to the text. -/
def innerQuotes (quote : Char) : Scan (List Char) := do
  let quotes ← charsOf fun char => char == quote
  guard (quotes.length == 1 || quotes.length == 2)
  return quotes

/-- Three quotes close a text; up to two more before them belong to it. -/
def closingQuotes (quote : Char) : Scan (List Char) := do
  let quotes ← charsOf fun char => char == quote
  guard (3 ≤ quotes.length && quotes.length ≤ 5)
  return quotes.drop 3

def brokenLine : Scan (List Char) := do
  newline
  return ['\n']

/-- A text on several lines; a line end right after the opening quotes does not count. -/
def multilineText (quote : Char) (piece : Scan (List Char)) : Scan String := do
  chars [quote, quote, quote]
  let _ ← optional newline
  let pieces ← many (piece <|> brokenLine <|> innerQuotes quote)
  let last ← closingQuotes quote
  return String.ofList (pieces.flatten ++ last)

def text : Scan String :=
  multilineText '"' (someCharsOf quotedPlain <|> joinedLines <|> escape) <|> basicText <|>
    multilineText '\'' (someCharsOf literalPlain) <|> literalText

end Toml

end ServiceRouting
