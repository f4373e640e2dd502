import ServiceRouting.Pattern.Fault
import ServiceRouting.Pattern.Syntax
import ServiceRouting.Text.CharClass

/-!
# Reading a pattern character by character

The reader stands at a place in the pattern and moves forward; the first fault ends the reading.
In a spaced pattern white space and comments, which reach from a number sign to the end of their
line, are passed over where the reader is told to.
-/

set_option autoImplicit false

namespace ServiceRouting

namespace Pattern

structure ReaderState where
  rest : List Char
  place : Place := {}
  /-- White space and comments mean nothing here. -/
  spaced : Bool := false
  /-- The names of the groups so far, with the stretches where they stand. -/
  names : List (String × Stretch) := []

abbrev Reader := StateT ReaderState (Except Fault)

namespace Reader

def failAt {Result : Type} (cause : FaultCause) (stretch : Stretch) : Reader Result :=
  throw (.wrong cause stretch none)

/-- A fault of a stretch that clashes with another one. -/
def failAgainst {Result : Type} (cause : FaultCause) (stretch other : Stretch) : Reader Result :=
  throw (.wrong cause stretch (some other))

def place : Reader Place := do
  return (← get).place

/-- The empty stretch where the reader stands. -/
def here : Reader Stretch := do
  return .empty (← place)

def since (start : Place) : Reader Stretch := do
  return ⟨start, ← place⟩

def peek? : Reader (Option Char) := do
  return (← get).rest.head?

/-- The stretch of the next character. -/
def charStretch (char : Char) : Reader Stretch := do
  let start ← place
  return ⟨start, start.after char⟩

def ReaderState.bumped (state : ReaderState) : ReaderState :=
  match state.rest with
  | [] => state
  | char :: rest => { state with rest := rest, place := state.place.after char }

/-- Passes the next character. -/
def bump : Reader Unit := do
  modify ReaderState.bumped

/-- Passes white space and comments. -/
def skipBlanks (inComment : Bool) (place : Place) : List Char → List Char × Place
  | [] => ([], place)
  | char :: rest =>
    if inComment then skipBlanks (char != '\n') (place.after char) rest
    else if CharClass.isBlank char then skipBlanks false (place.after char) rest
    else if char = '#' then skipBlanks true (place.after char) rest
    else (char :: rest, place)

def skip : Reader Unit := do
  let state ← get
  if state.spaced then
    let (rest, place) := skipBlanks false state.place state.rest
    set { state with rest := rest, place := place }

/-- Passes the next character and what means nothing behind it. -/
def advance : Reader Unit := do
  bump
  skip

/-- The first character that is neither white space nor the first number sign; a comment is not
looked for. -/
def firstMeaningful? (signSeen : Bool) : List Char → Option Char
  | [] => none
  | char :: rest =>
    if CharClass.isBlank char then firstMeaningful? signSeen rest
    else if char = '#' ∧ signSeen = false then firstMeaningful? true rest
    else some char

/-- The character behind the next one, in a spaced pattern the first one that means something. -/
def meaningfulSecond? : Reader (Option Char) := do
  let state ← get
  let later := state.rest.tail
  if state.spaced then return (firstMeaningful? false later).or later.head?
  else return later.head?

/-- Passes a text if it comes next. -/
def passes (text : String) : Reader Bool := do
  let chars := text.toList
  if chars.isPrefixOf (← get).rest then
    modify fun state => chars.foldl (fun state _ => ReaderState.bumped state) state
    return true
  else return false

def takeUpTo (wanted : Char → Bool) (move : Reader Unit) : Nat → Reader (List Char)
  | 0 => return []
  | limit + 1 => do
    match ← peek? with
    | none => return []
    | some char =>
      if wanted char then
        move
        let later ← takeUpTo wanted move limit
        return char :: later
      else return []

/-- A run of characters of a kind; each is passed by `move`. -/
def take (wanted : Char → Bool) (move : Reader Unit) : Reader (List Char) := do
  takeUpTo wanted move (← get).rest.length

end Reader

end Pattern

end ServiceRouting
