import ServiceRouting.Pattern.CharSet

/-!
# Matching

A matcher takes a set of places in a text, at which a match may begin, to the set of places at which
it may end.  The text stands between the places `0` and its length; a set of places is the number
whose bits are set there.  A repetition of more rounds than there are characters contains a round
that takes none, so it is cut down to one round more than the text is long.
-/

set_option autoImplicit false

namespace ServiceRouting

namespace Pattern

/-- What holds at a place without taking a character. -/
inductive Look where
  | start
  | stop
  | startOfLine
  | endOfLine
  /-- Lines may end with a carriage return, with a line feed or with both. -/
  | startOfAnyLine
  | endOfAnyLine
  | border
  | noBorder
  | wordStart
  | wordStop
  | noWordBefore
  | noWordBehind
  /-- Asks for words of all scripts. -/
  | anyScript
  deriving DecidableEq, Repr

inductive Matcher where
  | empty
  | one (set : CharSet)
  | look (look : Look)
  | both (first second : Matcher)
  | either (first second : Matcher)
  | repeated (least : Nat) (most : Option Nat) (inner : Matcher)
  deriving DecidableEq, Repr

/-! ## Places -/

/-- A letter of ASCII, a digit or an underscore. -/
def isWordChar (char : Char) : Bool :=
  char.isAlphanum || char == '_'

def Look.holds (look : Look) (before behind : Option Char) : Bool :=
  match look with
  | start => before.isNone
  | stop => behind.isNone
  | startOfLine => before.isNone || before == some '\n'
  | endOfLine => behind.isNone || behind == some '\n'
  | startOfAnyLine =>
    before.isNone || before == some '\n' || (before == some '\r' && behind != some '\n')
  | endOfAnyLine =>
    behind.isNone || behind == some '\r' || (behind == some '\n' && before != some '\r')
  | border => before.any isWordChar != behind.any isWordChar
  | noBorder => before.any isWordChar == behind.any isWordChar
  | wordStart => !before.any isWordChar && behind.any isWordChar
  | wordStop => before.any isWordChar && !behind.any isWordChar
  | noWordBefore => !before.any isWordChar
  | noWordBehind => !behind.any isWordChar
  | anyScript => false

/-- The places in a text at which something holds of the characters around them. -/
def placesFrom (holds : Option Char → Option Char → Bool) (before : Option Char) :
    List Char → Nat
  | [] => if holds before none then 1 else 0
  | char :: rest =>
    2 * placesFrom holds (some char) rest + if holds before (some char) then 1 else 0

def placesWhere (holds : Option Char → Option Char → Bool) (text : List Char) : Nat :=
  placesFrom holds none text

def allPlaces (text : List Char) : Nat :=
  (1 <<< (text.length + 1)) - 1

/-! ## Runs -/

/-- Repeats a step on places, and stops when it changes nothing. -/
def rounds (step : Nat → Nat) : Nat → Nat → Nat
  | 0, places => places
  | count + 1, places =>
    let next := step places
    if next = places then places else rounds step count next

namespace Matcher

/-- The places at which matches that begin at some places end. -/
def run (text : List Char) : Matcher → Nat → Nat
  | empty, places => places
  | one set, places =>
    2 * (places &&& placesWhere (fun _ behind => behind.any set.covers) text)
  | look wanted, places => places &&& placesWhere wanted.holds text
  | both first second, places => second.run text (first.run text places)
  | either first second, places => first.run text places ||| second.run text places
  | repeated least most inner, places =>
    let limit := text.length + 1
    let more := match most with
      | some most => min limit (most - least)
      | none => limit
    rounds (fun found => found ||| inner.run text found) more
      (rounds (fun found => inner.run text found) (min limit least) places)

/-- Whether a part of a text matches. -/
def occursIn (matcher : Matcher) (text : List Char) : Bool :=
  matcher.run text (allPlaces text) != 0

/-! ## Words and size -/

/-- Whether a matcher asks for words of all scripts. -/
def asksForWords : Matcher → Bool
  | look wanted => wanted == .anyScript
  | both first second => first.asksForWords || second.asksForWords
  | either first second => first.asksForWords || second.asksForWords
  | repeated _ _ inner => inner.asksForWords
  | _ => false

/-- Whether a matcher takes no character. -/
def takesNothing : Matcher → Bool
  | empty => true
  | look _ => true
  | one _ => false
  | both first second => first.takesNothing && second.takesNothing
  | either first second => first.takesNothing && second.takesNothing
  | repeated _ most inner => most == some 0 || inner.takesNothing

/-- Bytes that one state of a prepared pattern takes. -/
def stateSize : Nat := 32

/-- The bytes for one character of a set; sets beyond ASCII take the states of all encodings. -/
def setSize (set : CharSet) : Nat :=
  if set.isAscii then stateSize + 8 * set.ranges.length
  else
    match set.ranges with
    | [(first, last)] =>
      if first = last then stateSize * (Char.ofNat first).utf8Size else 9 * stateSize + 136
    | _ => 9 * stateSize + 136

/-- About how many bytes a pattern takes when it is prepared for matching. -/
def size : Matcher → Nat
  | empty => stateSize
  | one set => setSize set
  | look _ => stateSize
  | both first second => first.size + second.size
  | either first second => first.size + second.size + 2 * stateSize
  | repeated least most inner =>
    if inner.takesNothing then inner.size
    else
      match most with
      | some most => least * inner.size + (most - least) * (inner.size + stateSize)
      | none => max 1 least * inner.size + 2 * stateSize

end Matcher

end Pattern

end ServiceRouting
