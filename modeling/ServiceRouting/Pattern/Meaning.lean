import ServiceRouting.Pattern.Matcher
import ServiceRouting.Pattern.Reading

/-!
# The meaning of patterns

A pattern becomes a matcher under flags, which the pattern itself changes on the way.  Where the
Unicode flag is raised, a pattern speaks of the characters of all scripts; there are no tables of
scripts here, so classes and cases that need them are faults.  Where it is lowered, the pattern
speaks of bytes, and what could match a part of a character is a fault.
-/

set_option autoImplicit false

namespace ServiceRouting

namespace Pattern

/-- The flags that matter to the meaning. -/
structure Flags where
  caseless : Bool := false
  multiline : Bool := false
  dotAll : Bool := false
  carriageReturns : Bool := false
  unicode : Bool := true
  deriving DecidableEq, Repr

def Flags.set (flags : Flags) (change : Flag × Bool) : Flags :=
  match change.1 with
  | .caseless => { flags with caseless := change.2 }
  | .multiline => { flags with multiline := change.2 }
  | .dotAll => { flags with dotAll := change.2 }
  | .carriageReturns => { flags with carriageReturns := change.2 }
  | .unicode => { flags with unicode := change.2 }
  | .lazy => flags
  | .spaced => flags

def Flags.change (flags : Flags) (changes : FlagChanges) : Flags :=
  changes.foldl Flags.set flags

abbrev Meaning (Result : Type) := Except Fault Result

def wrong {Result : Type} (cause : FaultCause) (stretch : Stretch) : Meaning Result :=
  .error (.wrong cause stretch none)

/-! ## Classes -/

def NamedClass.ranges : NamedClass → List (Nat × Nat)
  | alnum => [(0x30, 0x39), (0x41, 0x5a), (0x61, 0x7a)]
  | alpha => [(0x41, 0x5a), (0x61, 0x7a)]
  | ascii => [(0x00, 0x7f)]
  | blank => [(0x09, 0x09), (0x20, 0x20)]
  | cntrl => [(0x00, 0x1f), (0x7f, 0x7f)]
  | digit => [(0x30, 0x39)]
  | graph => [(0x21, 0x7e)]
  | lower => [(0x61, 0x7a)]
  | print => [(0x20, 0x7e)]
  | punct => [(0x21, 0x2f), (0x3a, 0x40), (0x5b, 0x60), (0x7b, 0x7e)]
  | space => [(0x09, 0x0d), (0x20, 0x20)]
  | upper => [(0x41, 0x5a)]
  | word => [(0x30, 0x39), (0x41, 0x5a), (0x5f, 0x5f), (0x61, 0x7a)]
  | xdigit => [(0x30, 0x39), (0x41, 0x46), (0x61, 0x66)]

def ShortClass.named : ShortClass → NamedClass
  | digit => .digit
  | space => .space
  | word => .word

namespace Flags

/-- The last unit of text that a class may hold: a code point or a byte. -/
def lastUnit (flags : Flags) : Nat :=
  if flags.unicode then CharSet.lastCode else 0xff

/-- Without tables of scripts the cases of a set can be closed only if that changes nothing. -/
def closeCases (flags : Flags) (stretch : Stretch) (set : CharSet) : Meaning CharSet :=
  if !flags.caseless then .ok set
  else if !flags.unicode then .ok set.closeCases
  else if set.ranges = [] ∨ set.caseClosed then .ok set
  else wrong .caseUnavailable stretch

/-- A class of bytes holds no bytes beyond ASCII, which are parts of characters. -/
def checkBytes (flags : Flags) (stretch : Stretch) (set : CharSet) : Meaning CharSet :=
  if flags.unicode || set.isAscii then .ok set else wrong .invalidUtf8 stretch

/-- What the flags and a negation make of the set between two brackets. -/
def close (flags : Flags) (stretch : Stretch) (negated : Bool) (set : CharSet) :
    Meaning CharSet := do
  let closed ← flags.closeCases stretch set
  flags.checkBytes stretch (if negated then closed.complement flags.lastUnit else closed)

def named (flags : Flags) (stretch : Stretch) (negated : Bool) (kind : NamedClass) :
    Meaning CharSet :=
  flags.close stretch negated (.ofRanges kind.ranges)

def short (flags : Flags) (stretch : Stretch) (negated : Bool) (kind : ShortClass) :
    Meaning CharSet :=
  if flags.unicode then wrong .shortClassNotFound stretch
  else
    let set := CharSet.ofRanges kind.named.ranges
    flags.checkBytes stretch (if negated then set.complement flags.lastUnit else set)

/-- The part of a property's name that counts: lower case, without an opening `is`, and without
blanks, hyphens and underscores. -/
def propertyKey (name : String) : String :=
  let chars := name.toList
  let body := if (chars.take 2).map Char.toLower = ['i', 's'] then chars.drop 2 else chars
  let kept := body.filter fun char =>
    decide (char.toNat < 0x80) && char != ' ' && char != '_' && char != '-'
  String.ofList (kept.map Char.toLower)

/-- No property is known.  Three names are only ever looked for among the values of one. -/
def property (flags : Flags) (stretch : Stretch) (name : String) (hasValue : Bool) :
    Meaning CharSet :=
  if !flags.unicode then wrong .unicodeNotAllowed stretch
  else if !hasValue ∧ propertyKey name ∈ ["cf", "sc", "lc"] then
    wrong .propertyValueNotFound stretch
  else wrong .propertyNotFound stretch

/-- A letter; one that is written as a byte beyond ASCII is none where bytes count. -/
def letter (flags : Flags) (letter : Letter) : Meaning Char :=
  if !flags.unicode ∧ letter.asByte ∧ 0x80 ≤ letter.char.toNat then
    wrong .invalidUtf8 letter.stretch
  else .ok letter.char

/-- A letter in a class, which must be a byte where bytes count. -/
def classLetter (flags : Flags) (found : Letter) : Meaning Char := do
  let char ← flags.letter found
  if !flags.unicode ∧ 0x80 ≤ char.toNat then wrong .unicodeNotAllowed found.stretch
  else .ok char

end Flags

def ClassOperation.apply : ClassOperation → CharSet → CharSet → CharSet
  | intersection, left, right => left.intersection right
  | difference, left, right => left.difference right
  | symmetricDifference, left, right => left.symmetricDifference right

mutual

/-- Adds what a part of a class stands for to a set. -/
def ClassTree.addTo (flags : Flags) (set : CharSet) : ClassTree → Meaning CharSet
  | .empty _ => .ok set
  | .letter found => do
    let char ← flags.classLetter found
    .ok (set.push char char)
  | .range _ first last => do
    let low ← flags.classLetter first
    let high ← flags.classLetter last
    .ok (set.push low high)
  | .named stretch negated kind => do
    .ok (set.union (← flags.named stretch negated kind))
  | .short stretch negated kind => do
    .ok (set.union (← flags.short stretch negated kind))
  | .property stretch name hasValue => do
    .ok (set.union (← flags.property stretch name hasValue))
  | .bracketed stretch negated inside => do
    let inner ← inside.addTo flags {}
    .ok (set.union (← flags.close stretch negated inner))
  | .union _ items => ClassTree.addAllTo flags set items
  | .operation _ kind left right => do
    let first ← left.addTo flags {}
    let second ← right.addTo flags {}
    let second ← flags.closeCases right.stretch second
    let first ← flags.closeCases left.stretch first
    .ok (set.union (kind.apply first second))

def ClassTree.addAllTo (flags : Flags) (set : CharSet) : List ClassTree → Meaning CharSet
  | [] => .ok set
  | item :: rest => do
    ClassTree.addAllTo flags (← item.addTo flags set) rest

end

/-! ## Single characters -/

/-- All characters but those that end a line, unless the dot means every character. -/
def Flags.dot (flags : Flags) (stretch : Stretch) : Meaning CharSet :=
  if !flags.unicode then wrong .invalidUtf8 stretch
  else
    let ends := if flags.dotAll then [] else if flags.carriageReturns then [(0xa, 0xa), (0xd, 0xd)]
      else [(0xa, 0xa)]
    .ok ((CharSet.ofRanges ends).complement CharSet.lastCode)

def Flags.single (flags : Flags) (found : Letter) : Meaning CharSet := do
  let char ← flags.letter found
  let set := CharSet.ofChar char
  if flags.caseless && flags.unicode then wrong .caseUnavailable found.stretch
  else .ok (if flags.caseless then set.closeCases else set)

def Boundary.look : Boundary → Look
  | border => .border
  | noBorder => .noBorder
  | start => .wordStart
  | stop => .wordStop
  | startHalf => .noWordBefore
  | stopHalf => .noWordBehind

def Flags.look (flags : Flags) : Assertion → Look
  | .textStart => .start
  | .textEnd => .stop
  | .lineStart =>
    if !flags.multiline then .start
    else if flags.carriageReturns then .startOfAnyLine else .startOfLine
  | .lineEnd =>
    if !flags.multiline then .stop
    else if flags.carriageReturns then .endOfAnyLine else .endOfLine
  | .word boundary => if flags.unicode then .anyScript else boundary.look

def Atom.matcher (flags : Flags) : Atom → Meaning Matcher
  | letter found => do .ok (.one (← flags.single found))
  | dot stretch => do .ok (.one (← flags.dot stretch))
  | assertion _ found => .ok (.look (flags.look found))
  | short stretch negated kind => do .ok (.one (← flags.short stretch negated kind))
  | property stretch name hasValue => do .ok (.one (← flags.property stretch name hasValue))

/-! ## Patterns -/

/-- A repetition; one that never happens does not count for anything. -/
def Matcher.times (least : Nat) (most : Option Nat) (inner : Matcher) : Matcher :=
  if most = some 0 then .empty else .repeated least most inner

mutual

/-- The matcher of a pattern and the flags behind it. -/
def Node.matcher (flags : Flags) : Node → Meaning (Matcher × Flags)
  | .empty => .ok (.empty, flags)
  | .flags _ changes => .ok (.empty, flags.change changes)
  | .atom found => do .ok (← found.matcher flags, flags)
  | .bracketed stretch negated inside => do
    let set ← inside.addTo flags {}
    .ok (.one (← flags.close stretch negated set), flags)
  | .repetition _ least most inner => do
    let (inner, flags) ← inner.matcher flags
    .ok (.times least most inner, flags)
  | .group _ changes inner => do
    let (inner, _) ← inner.matcher (flags.change changes)
    .ok (inner, flags)
  | .alternation _ branches => Node.choice flags branches
  | .sequence _ parts => Node.row flags parts

def Node.choice (flags : Flags) : List Node → Meaning (Matcher × Flags)
  | [] => .ok (.one {}, flags)
  | node :: rest => do
    let (first, flags) ← node.matcher flags
    let (second, flags) ← Node.choice flags rest
    .ok (.either first second, flags)

def Node.row (flags : Flags) : List Node → Meaning (Matcher × Flags)
  | [] => .ok (.empty, flags)
  | node :: rest => do
    let (first, flags) ← node.matcher flags
    let (second, flags) ← Node.row flags rest
    .ok (.both first second, flags)

end

end Pattern

/-- A pattern that a text may contain. -/
structure Pattern where
  matcher : Pattern.Matcher
  deriving DecidableEq, Repr

namespace Pattern

def ofText (text : String) : Except Fault Pattern := do
  let node ← Node.ofText text
  let (matcher, _) ← node.matcher {}
  if sizeLimit < matcher.size then .error .tooLarge
  else if matcher.asksForWords then .error .noWordBoundaries
  else .ok ⟨matcher⟩

def occursIn (pattern : Pattern) (text : String) : Bool :=
  pattern.matcher.occursIn text.toList

end Pattern

end ServiceRouting
