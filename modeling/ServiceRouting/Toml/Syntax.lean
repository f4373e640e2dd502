import ServiceRouting.Toml.Moment
import ServiceRouting.Toml.Number

/-!
# The syntax of TOML documents

A document is a list of statements: headers, which say which table is filled from there on, and
assignments of values to keys.  What the statements mean together is not decided here.  Values nest
at most `nestingLimit` deep and keys have fewer than `keyLimit` parts.
-/

set_option autoImplicit false

namespace ServiceRouting

namespace Toml

open Scan

/-! ## Keys -/

structure KeyPart where
  text : String
  /-- Where the part stands, with its quotes. -/
  span : Span
  deriving DecidableEq, Repr

/-- A key with dots has a path to its last part. -/
structure Key where
  path : List KeyPart
  last : KeyPart
  deriving DecidableEq, Repr

def Key.ofParts : KeyPart → List KeyPart → Key
  | part, [] => ⟨[], part⟩
  | part, next :: rest =>
    let key := Key.ofParts next rest
    ⟨part :: key.path, key.last⟩

def Key.parts (key : Key) : List KeyPart :=
  key.path ++ [key.last]

def keyLimit : Nat := 80

def isBare (char : Char) : Bool :=
  char.isAlphanum || char == '-' || char == '_'

def bareText : Scan String := do
  return String.ofList (← someCharsOf isBare)

def keyPart : Scan KeyPart := do
  blanks
  let (text, span) ← spanned (basicText <|> literalText <|> bareText)
  blanks
  return ⟨text, span⟩

def key : Scan Key := do
  let first ← keyPart
  let later ← many (char '.' *> keyPart)
  guard (later.length + 1 < keyLimit)
  return Key.ofParts first later

/-! ## Values -/

/-- A value as it is written, with its place. -/
inductive Expression where
  | scalar (value : Datum) (span : Span)
  | array (items : List Expression) (span : Span)
  | table (pairs : List (Key × Expression)) (span : Span)

def Expression.span : Expression → Span
  | scalar _ span => span
  | array _ span => span
  | table _ span => span

/-- Values stand inside fewer arrays and tables in a row than this. -/
def nestingLimit : Nat := 80

def truth : Scan Datum :=
  (chars ['t', 'r', 'u', 'e'] *> return .truth true) <|>
    (chars ['f', 'a', 'l', 's', 'e'] *> return .truth false)

/-- A moment counts as a mapping of its own kind. -/
def momentValue : Scan Datum := do
  return .mapping [("moment", .text (← moment))]

def textScalar : Scan Datum := do
  return .text (← text)

def scalar : Scan Expression := do
  let (value, span) ← spanned (textScalar <|> momentValue <|> number <|> truth)
  return .scalar value span

/-- Line ends and comments may stand anywhere in an array, and a comma after the last item. -/
def array (value : Scan Expression) : Scan Expression := do
  let (items, span) ← spanned (do
    char '['
    let items ← separatedBy (char ',') (spacing *> value <* spacing)
    if !items.isEmpty then
      let _ ← optional (char ',')
    spacing
    char ']'
    return items)
  return .array items span

def pair (value : Scan Expression) : Scan (Key × Expression) := do
  let name ← key
  char '='
  blanks
  let found ← value
  blanks
  return (name, found)

/-- An inline table stands on one line. -/
def inlineTable (value : Scan Expression) : Scan Expression := do
  let (pairs, span) ← spanned (do
    char '\x7b'
    let pairs ← separatedBy (char ',') (pair value)
    blanks
    char '\x7d'
    return pairs)
  return .table pairs span

/-- A value with at most so many arrays and tables one inside another. -/
def value : Nat → Scan Expression
  | 0 => scalar
  | nesting + 1 => scalar <|> array (value nesting) <|> inlineTable (value nesting)

/-! ## Statements -/

inductive Statement where
  /-- The values that follow belong to the table of this name. -/
  | table (key : Key) (span : Span)
  /-- The values that follow belong to a new table at the end of the array of this name. -/
  | element (key : Key) (span : Span)
  | assignment (key : Key) (value : Expression)

def tableHeader : Scan Statement := do
  let (name, span) ← spanned (char '[' *> key <* char ']')
  return .table name span

def elementHeader : Scan Statement := do
  let (name, span) ← spanned (chars ['[', '['] *> key <* chars [']', ']'])
  return .element name span

def assignment : Scan Statement := do
  let (name, found) ← pair (value (nestingLimit - 1))
  return .assignment name found

def emptyLine : Scan (Option Statement) := do
  (comment *> (newline <|> endOfText)) <|> newline
  return none

def statementLine : Scan (Option Statement) := do
  let found ← elementHeader <|> tableHeader <|> assignment
  lineEnd
  return some found

/-- A mark of the byte order may stand before everything else. -/
def document : Scan (List Statement) := do
  let _ ← optional (char '\uFEFF')
  blanks
  let lines ← many ((emptyLine <|> statementLine) <* blanks)
  endOfText
  return lines.filterMap id

end Toml

end ServiceRouting
