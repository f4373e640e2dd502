/-!
# Scanning a text

A scan reads characters from a cursor and moves it forward, or fails.  A failed scan leaves no
trace, so an alternative is tried from where the first attempt began.  The cursor counts bytes,
because places in a text are given in bytes.
-/

set_option autoImplicit false

namespace ServiceRouting

/-- A place in a text: how many bytes lie before it, and the characters from it on. -/
structure Cursor where
  offset : Nat
  rest : List Char

/-- A stretch of a text, from the byte `start` to before the byte `stop`. -/
structure Span where
  start : Nat
  stop : Nat
  deriving DecidableEq, Repr

abbrev Scan (Result : Type) := StateT Cursor Option Result

def byteLength (chars : List Char) : Nat :=
  chars.foldl (fun total char => total + char.utf8Size) 0

namespace Scan

variable {Result : Type}

def offset : Scan Nat := do
  let cursor ← get
  return cursor.offset

/-- The next character, which is not taken. -/
def peek? : Scan (Option Char) := do
  let cursor ← get
  return cursor.rest.head?

def endOfText : Scan Unit := do
  let cursor ← get
  guard cursor.rest.isEmpty

def satisfy (wanted : Char → Bool) : Scan Char := do
  let cursor ← get
  match cursor.rest with
  | [] => failure
  | char :: rest =>
    guard (wanted char)
    set (Cursor.mk (cursor.offset + char.utf8Size) rest)
    return char

def char (expected : Char) : Scan Unit := do
  let _ ← satisfy fun found => found == expected

def chars : List Char → Scan Unit
  | [] => return
  | expected :: rest => do
    char expected
    chars rest

/-- The longest run of characters of a kind; it may be empty. -/
def charsOf (wanted : Char → Bool) : Scan (List Char) := do
  let cursor ← get
  let taken := cursor.rest.takeWhile wanted
  set (Cursor.mk (cursor.offset + byteLength taken) (cursor.rest.dropWhile wanted))
  return taken

/-- A run of at least one character. -/
def someCharsOf (wanted : Char → Bool) : Scan (List Char) := do
  let taken ← charsOf wanted
  guard (!taken.isEmpty)
  return taken

def spanned (scan : Scan Result) : Scan (Result × Span) := do
  let start ← offset
  let result ← scan
  let stop ← offset
  return (result, ⟨start, stop⟩)

def manyUpTo (step : Scan Result) : Nat → Scan (List Result)
  | 0 => return []
  | limit + 1 => do
    match ← optional step with
    | none => return []
    | some first =>
      let later ← manyUpTo step limit
      return first :: later

/-- Repeats a step until it fails.  A step takes at least one character, so there are no more
repetitions than characters. -/
def many (step : Scan Result) : Scan (List Result) := do
  let cursor ← get
  manyUpTo step cursor.rest.length

/-- Items with a separator between each two of them; there may be none. -/
def separatedBy (separator : Scan Unit) (item : Scan Result) : Scan (List Result) := do
  match ← optional item with
  | none => return []
  | some first =>
    let later ← many (separator *> item)
    return first :: later

/-- The result of a scan from the start of a text. -/
def ofText? (scan : Scan Result) (text : String) : Option Result :=
  (scan.run ⟨0, text.toList⟩).map Prod.fst

end Scan

end ServiceRouting
