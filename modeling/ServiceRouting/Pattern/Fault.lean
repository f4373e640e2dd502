import ServiceRouting.Pattern.Place
import ServiceRouting.Text.Layout

/-!
# Faults in patterns

Why a text is no pattern.  A report repeats the pattern and marks the place of the fault below it;
a pattern of several lines is repeated with its line numbers between two rules.
-/

set_option autoImplicit false

namespace ServiceRouting

namespace Pattern

inductive FaultCause where
  | classEscape
  | classRangeOrder
  | classRangeEnd
  | classUnclosed
  | decimalEmpty
  | decimalInvalid
  | hexEmpty
  | hexInvalid
  | hexDigit
  | escapeUnfinished
  | escapeUnknown
  | flagDanglingNegation
  | flagRepeated
  | flagRepeatedNegation
  | flagUnfinished
  | flagUnknown
  | nameRepeated
  | nameEmpty
  | nameInvalid
  | nameUnfinished
  | groupUnclosed
  | groupUnopened
  | nestedTooDeep
  | countOrder
  | countEmpty
  | countUnclosed
  | repetitionMissing
  | boundaryUnclosed
  | boundaryUnknown
  | boundaryOrCountUnfinished
  | propertyInvalid
  | backreference
  | lookAround
  | unicodeNotAllowed
  | invalidUtf8
  | propertyNotFound
  | propertyValueNotFound
  | shortClassNotFound
  | caseUnavailable
  deriving DecidableEq, Repr

/-- How deep groups, repetitions and classes may be nested. -/
def nestingLimit : Nat := 250

/-- How many bytes a pattern may take when it is prepared for matching. -/
def sizeLimit : Nat := 10485760

def FaultCause.describe : FaultCause → String
  | classEscape => "invalid escape sequence found in character class"
  | classRangeOrder => "invalid character class range, the start must be <= the end"
  | classRangeEnd => "invalid range boundary, must be a literal"
  | classUnclosed => "unclosed character class"
  | decimalEmpty => "decimal literal empty"
  | decimalInvalid => "decimal literal invalid"
  | hexEmpty => "hexadecimal literal empty"
  | hexInvalid => "hexadecimal literal is not a Unicode scalar value"
  | hexDigit => "invalid hexadecimal digit"
  | escapeUnfinished => "incomplete escape sequence, reached end of pattern prematurely"
  | escapeUnknown => "unrecognized escape sequence"
  | flagDanglingNegation => "dangling flag negation operator"
  | flagRepeated => "duplicate flag"
  | flagRepeatedNegation => "flag negation operator repeated"
  | flagUnfinished => "expected flag but got end of regex"
  | flagUnknown => "unrecognized flag"
  | nameRepeated => "duplicate capture group name"
  | nameEmpty => "empty capture group name"
  | nameInvalid => "invalid capture group character"
  | nameUnfinished => "unclosed capture group name"
  | groupUnclosed => "unclosed group"
  | groupUnopened => "unopened group"
  | nestedTooDeep =>
    "exceed the maximum number of nested parentheses/brackets (" ++ toString nestingLimit ++ ")"
  | countOrder => "invalid repetition count range, the start must be <= the end"
  | countEmpty => "repetition quantifier expects a valid decimal"
  | countUnclosed => "unclosed counted repetition"
  | repetitionMissing => "repetition operator missing expression"
  | boundaryUnclosed =>
    "special word boundary assertion is either unclosed or contains an invalid character"
  | boundaryUnknown => "unrecognized special word boundary assertion, valid choices are: " ++
    "start, end, start-half or end-half"
  | boundaryOrCountUnfinished => "found either the beginning of a special word boundary or a " ++
    "bounded repetition on a \\b with an opening brace, but no closing brace"
  | propertyInvalid => "invalid Unicode character class"
  | backreference => "backreferences are not supported"
  | lookAround => "look-around, including look-ahead and look-behind, is not supported"
  | unicodeNotAllowed => "Unicode not allowed here"
  | invalidUtf8 => "pattern can match invalid UTF-8"
  | propertyNotFound => "Unicode property not found"
  | propertyValueNotFound => "Unicode property value not found"
  | shortClassNotFound =>
    "Unicode-aware Perl class not found (make sure the unicode-perl feature is enabled)"
  | caseUnavailable => "Unicode-aware case insensitivity matching is not available " ++
    "(make sure the unicode-case feature is enabled)"

inductive Fault where
  /-- A fault at a stretch, and the other stretch that it clashes with, if any. -/
  | wrong (cause : FaultCause) (stretch : Stretch) (other : Option Stretch)
  /-- Words of all scripts cannot be told from what stands between them. -/
  | noWordBoundaries
  | tooLarge
  deriving DecidableEq, Repr

/-! ## Reports -/

namespace Report

def blanks (count : Nat) : String :=
  String.ofList (List.replicate count ' ')

/-- Carets below the stretches on one line, in their order. -/
def carets (margin : Nat) (stretches : List Stretch) : String :=
  (stretches.foldl
    (fun (drawn : String × Nat) stretch =>
      (drawn.1 ++ blanks (stretch.start.column - 1 - drawn.2) ++
          String.ofList (List.replicate stretch.columns '^'),
        max drawn.2 (stretch.start.column - 1) + stretch.columns))
    (blanks margin, 0)).1

/-- The width of the line numbers; a pattern of one line has none. -/
def numberWidth (count : Nat) : Nat :=
  if count ≤ 1 then 0 else (toString count).length

def lineText (width : Nat) (stretches : List Stretch) (entry : String × Nat) : String :=
  let number := toString entry.2
  let start := if width = 0 then blanks 4
    else blanks (width - number.length) ++ number ++ ": "
  let margin := if width = 0 then 4 else width + 2
  let marked := stretches.filter fun stretch =>
    stretch.onOneLine && stretch.start.line == entry.2
  start ++ entry.1 ++ "\n" ++ if marked = [] then "" else carets margin marked ++ "\n"

/-- The pattern with the stretches marked.  Behind a line feed at its end there is one more line,
which counts but is not shown. -/
def marked (pattern : String) (stretches : List Stretch) : String :=
  let lines := Layout.readLines pattern
  let count := lines.length + if pattern.endsWith "\n" then 1 else 0
  String.join ((lines.zipIdx 1).map (lineText (numberWidth count) stretches))

def longStretch (stretch : Stretch) : String :=
  "on line " ++ toString stretch.start.line ++ " (column " ++ toString stretch.start.column ++
    ") through line " ++ toString stretch.stop.line ++ " (column " ++
    toString (stretch.stop.column - 1) ++ ")"

def ofStretches (pattern : String) (stretches : List Stretch) : String :=
  if pattern.toList.any (· == '\n') then
    let rule := String.ofList (List.replicate 79 '~') ++ "\n"
    let long := stretches.filter fun stretch => !stretch.onOneLine
    let notes := if long = [] then "" else "\n".intercalate (long.map longStretch) ++ "\n"
    rule ++ marked pattern stretches ++ rule ++ notes
  else marked pattern stretches

end Report

def Fault.describe (pattern : String) : Fault → String
  | wrong cause stretch other =>
    let stretches := (stretch :: other.toList).mergeSort Stretch.before
    "regex parse error:\n" ++ Report.ofStretches pattern stretches ++ "error: " ++ cause.describe
  | noWordBoundaries => "error building NFA"
  | tooLarge => "Compiled regex exceeds size limit of " ++ toString sizeLimit ++ " bytes."

end Pattern

end ServiceRouting
