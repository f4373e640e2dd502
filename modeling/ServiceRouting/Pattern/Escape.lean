import ServiceRouting.Pattern.Reader
import ServiceRouting.Text.Digits

/-!
# Escapes in patterns

What a backslash and the characters behind it stand for: a character that would have a meaning
otherwise, a character by its code point, a class or an assertion.
-/

set_option autoImplicit false

namespace ServiceRouting

namespace Pattern

namespace Reader

/-- Marks of punctuation and other characters of ASCII that stand for themselves behind a
backslash.  Angle brackets mark the ends of words. -/
def isEscapable (char : Char) : Bool :=
  decide (char.toNat < 0x80) && !char.isAlphanum && char != '<' && char != '>'

/-! ## Code points -/

def hexRun : Nat → Reader (List Char)
  | 0 => return []
  | count + 1 => do
    match ← peek? with
    | none => failAt .escapeUnfinished (← here)
    | some digit =>
      if Digits.isHex digit then
        advance
        let later ← hexRun count
        return digit :: later
      else failAt .hexDigit (← charStretch digit)

/-- Digits up to a closing brace, which is left standing. -/
def hexInBraces : Nat → Reader (List Char)
  | 0 => return []
  | limit + 1 => do
    match ← peek? with
    | none => return []
    | some '\x7d' => return []
    | some digit =>
      if Digits.isHex digit then
        advance
        let later ← hexInBraces limit
        return digit :: later
      else failAt .hexDigit (← charStretch digit)

def letterOf (digits : List Char) (written whole : Stretch) (asByte : Bool) : Reader Atom := do
  match Digits.scalar? (Digits.number 16 digits) with
  | some char => return .letter ⟨char, whole, asByte⟩
  | none => failAt .hexInvalid written

def fixedHex (start : Place) (count : Nat) : Reader Atom := do
  let first ← place
  let digits ← hexRun count
  letterOf digits (← since first) (← since start) (count == 2)

def bracedHex (start : Place) : Reader Atom := do
  let brace ← place
  let first := brace.after '\x7b'
  advance
  let digits ← hexInBraces (← get).rest.length
  let stop ← place
  if (← peek?).isNone then failAt .escapeUnfinished (← since brace)
  advance
  if digits = [] then failAt .hexEmpty (← since brace)
  letterOf digits ⟨first, stop⟩ (← since start) false

/-- A code point, in a fixed count of digits or between braces. -/
def codePoint (start : Place) (count : Nat) : Reader Atom := do
  advance
  match ← peek? with
  | none => failAt .escapeUnfinished (← here)
  | some '\x7b' => bracedHex start
  | some _ => fixedHex start count

/-! ## Classes -/

/-- Whether a property's name is followed by one of its values. -/
def hasValue (name : List Char) : Bool :=
  name.contains ':' || name.contains '='

def property (start : Place) : Reader Atom := do
  advance
  match ← peek? with
  | none => failAt .escapeUnfinished (← here)
  | some '\x7b' =>
    advance
    let name ← take (fun char => char != '\x7d') advance
    if (← peek?).isNone then failAt .escapeUnfinished (← here)
    bump
    return .property (← since start) (String.ofList name) (hasValue name)
  | some '\\' => failAt .propertyInvalid (← charStretch '\\')
  | some name =>
    advance
    return .property (← since start) (String.singleton name) false

def shortClass (start : Place) (negated : Bool) (kind : ShortClass) : Reader Atom := do
  bump
  return .short (← since start) negated kind

/-! ## Words -/

def isBoundaryLetter (char : Char) : Bool :=
  char.isAlpha || char == '-'

def boundaryNamed? : String → Option Boundary
  | "start" => some .start
  | "end" => some .stop
  | "start-half" => some .startHalf
  | "end-half" => some .stopHalf
  | _ => none

/-- The name between braces behind the sign of a word's border.  If no letter follows the brace,
it opens a count and is left standing. -/
def boundaryName (start : Place) : Reader (Option Boundary) := do
  let saved ← get
  advance
  let first ← place
  match ← peek? with
  | none => failAt .boundaryOrCountUnfinished (← since start)
  | some char =>
    if !isBoundaryLetter char then
      set saved
      return none
    let name ← take isBoundaryLetter advance
    if (← peek?) != some '\x7d' then failAt .boundaryUnclosed (← since saved.place)
    let stop ← place
    bump
    match boundaryNamed? (String.ofList name) with
    | some boundary => return some boundary
    | none => failAt .boundaryUnknown ⟨first, stop⟩

def wordBorder (start : Place) : Reader Atom := do
  let plain : Atom := .assertion (← since start) (.word .border)
  if (← peek?) != some '\x7b' then return plain
  match ← boundaryName start with
  | some boundary => return .assertion (← since start) (.word boundary)
  | none => return plain

/-! ## Single letters -/

def control? : Char → Option Char
  | 'a' => some '\x07'
  | 'f' => some '\x0c'
  | 't' => some '\t'
  | 'n' => some '\n'
  | 'r' => some '\r'
  | 'v' => some '\x0b'
  | _ => none

def assertion? : Char → Option Assertion
  | 'A' => some .textStart
  | 'z' => some .textEnd
  | 'B' => some (.word .noBorder)
  | '<' => some (.word .start)
  | '>' => some (.word .stop)
  | _ => none

def oneLetter (start : Place) (char : Char) : Reader Atom := do
  bump
  let stretch ← since start
  if isEscapable char then return .letter ⟨char, stretch, false⟩
  if char == 'b' then return ← wordBorder start
  match control? char, assertion? char with
  | some control, _ => return .letter ⟨control, stretch, false⟩
  | none, some assertion => return .assertion stretch assertion
  | none, none => failAt .escapeUnknown stretch

/-- What stands behind a backslash. -/
def escape : Reader Atom := do
  let start ← place
  bump
  match ← peek? with
  | none => failAt .escapeUnfinished (← since start)
  | some char =>
    if char.isDigit then failAt .backreference ⟨start, (← place).after char⟩
    match char with
    | 'x' => codePoint start 2
    | 'u' => codePoint start 4
    | 'U' => codePoint start 8
    | 'p' => property start
    | 'P' => property start
    | 'd' => shortClass start false .digit
    | 'D' => shortClass start true .digit
    | 's' => shortClass start false .space
    | 'S' => shortClass start true .space
    | 'w' => shortClass start false .word
    | 'W' => shortClass start true .word
    | other => oneLetter start other

end Reader

end Pattern

end ServiceRouting
