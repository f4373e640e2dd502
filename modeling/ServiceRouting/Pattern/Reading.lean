import ServiceRouting.Pattern.ClassReading
import ServiceRouting.Text.Letters

/-!
# Reading patterns

The parts of a sequence are gathered until a bar, a closing parenthesis or the end of the pattern.
Groups and choices that are still open are kept on a stack of frames.  A pattern that is well formed
must also not be nested too deep.
-/

set_option autoImplicit false

namespace ServiceRouting

namespace Pattern

/-- A sequence in the making; its last part comes first. -/
structure Parts where
  start : Place
  nodes : List Node := []

def Parts.push (parts : Parts) (node : Node) : Parts :=
  { parts with nodes := node :: parts.nodes }

def Parts.node (parts : Parts) (stop : Place) : Node :=
  match parts.nodes.reverse with
  | [] => .empty
  | [node] => node
  | nodes => .sequence ⟨parts.start, stop⟩ nodes

inductive GroupFrame where
  /-- An open group, with the sequence that it stands in. -/
  | group (before : Parts) (stretch : Stretch) (changes : FlagChanges) (wasSpaced : Bool)
  /-- The branches of a choice, the last one first. -/
  | choice (start : Place) (branches : List Node)

namespace Reader

/-! ## Flags -/

/-- The flags read so far, with the stretches where they stand. -/
structure FlagProgress where
  flags : List (Flag × Bool × Stretch) := []
  /-- The hyphen that lowers the flags behind it. -/
  negation : Option Stretch := none
  /-- No flag has followed the hyphen yet. -/
  dangling : Bool := false

namespace FlagProgress

def changes (progress : FlagProgress) : FlagChanges :=
  progress.flags.map fun entry => (entry.1, entry.2.1)

def add (progress : FlagProgress) (char : Char) (stretch : Stretch) : Reader FlagProgress := do
  if char = '-' then
    match progress.negation with
    | some other => failAgainst .flagRepeatedNegation stretch other
    | none => return { progress with negation := some stretch, dangling := true }
  else
    match Flag.named? char with
    | none => failAt .flagUnknown stretch
    | some flag =>
      match progress.flags.lookup flag with
      | some (_, other) => failAgainst .flagRepeated stretch other
      | none => return { progress with
          flags := progress.flags ++ [(flag, progress.negation.isNone, stretch)]
          dangling := false }

end FlagProgress

/-- Flags up to a colon or a closing parenthesis, which is left standing. -/
def flagsUpTo : Nat → FlagProgress → Reader FlagChanges
  | 0, progress => return progress.changes
  | limit + 1, progress => do
    match ← peek? with
    | none => failAt .flagUnfinished (← here)
    | some char =>
      if char = ':' ∨ char = ')' then
        match progress.negation, progress.dangling with
        | some stretch, true => failAt .flagDanglingNegation stretch
        | _, _ => return progress.changes
      else
        let next ← progress.add char (← charStretch char)
        bump
        if (← peek?).isNone then failAt .flagUnfinished (← here)
        flagsUpTo limit next

/-! ## Groups -/

def startsName (char : Char) : Bool :=
  char == '_' || CharClass.isLetter char

def continuesName (char : Char) : Bool :=
  startsName char || CharClass.isNumber char || char == '.' || char == '[' || char == ']'

/-- The name of a group up to an angle bracket, which is left standing. -/
def nameUpTo (first : Bool) : Nat → Reader (List Char)
  | 0 => return []
  | limit + 1 => do
    match ← peek? with
    | none => return []
    | some '>' => return []
    | some char =>
      if !(if first then startsName char else continuesName char) then
        failAt .nameInvalid (← charStretch char)
      bump
      let later ← nameUpTo false limit
      return char :: later

def groupName : Reader Unit := do
  if (← peek?).isNone then failAt .nameUnfinished (← here)
  let start ← place
  let name := String.ofList (← nameUpTo true (← get).rest.length)
  let stretch ← since start
  if (← peek?).isNone then failAt .nameUnfinished (← here)
  bump
  if name = "" then failAt .nameEmpty (.empty start)
  match (← get).names.lookup name with
  | some other => failAgainst .nameRepeated stretch other
  | none => modify fun state => { state with names := (name, stretch) :: state.names }

/-- What an opening parenthesis begins. -/
inductive Opening where
  | flags (stretch : Stretch) (changes : FlagChanges)
  | group (stretch : Stretch) (changes : FlagChanges)

/-- Passes the first of some texts that comes next. -/
def passesOneOf : List String → Reader Bool
  | [] => return false
  | text :: others => do
    if ← passes text then return true
    passesOneOf others

/-- A group with flags, or flags alone. -/
def flagOpening (opened mark : Stretch) : Reader Opening := do
  if (← peek?).isNone then failAt .groupUnclosed opened
  let changes ← flagsUpTo ((← get).rest.length + 1) {}
  let closed := (← peek?) == some ')'
  bump
  if !closed then return .group opened changes
  if changes = [] then failAt .repetitionMissing mark
  return .flags (← since opened.start) changes

def opening : Reader Opening := do
  let opened ← charStretch '('
  advance
  if ← passesOneOf ["?=", "?!", "?<=", "?<!"] then failAt .lookAround (← since opened.start)
  let mark ← here
  if ← passesOneOf ["?P<", "?<"] then
    groupName
    return .group opened []
  if ← passes "?" then return ← flagOpening opened mark
  return .group opened []

def setSpaced (spaced : Bool) : Reader Unit := do
  modify fun state => { state with spaced := spaced }

def openGroup (frames : List GroupFrame) (parts : Parts) :
    Reader (List GroupFrame × Parts) := do
  let spaced := (← get).spaced
  match ← opening with
  | .flags stretch changes =>
    setSpaced ((changes.lookup .spaced).getD spaced)
    return (frames, parts.push (.flags stretch changes))
  | .group stretch changes =>
    setSpaced ((changes.lookup .spaced).getD spaced)
    return (.group parts stretch changes spaced :: frames, ⟨← place, []⟩)

/-- The node of a sequence and of the choice that it ends, if it ends one. -/
def finished (parts : Parts) (stop : Place) :
    List GroupFrame → Node × List GroupFrame
  | .choice start branches :: frames =>
    (.alternation ⟨start, stop⟩ (parts.node stop :: branches).reverse, frames)
  | frames => (parts.node stop, frames)

def closeGroup (frames : List GroupFrame) (parts : Parts) :
    Reader (List GroupFrame × Parts) := do
  match finished parts (← place) frames with
  | (inner, .group before stretch changes wasSpaced :: frames) =>
    setSpaced wasSpaced
    bump
    return (frames, before.push (.group ⟨stretch.start, ← place⟩ changes inner))
  | _ => failAt .groupUnopened (← charStretch ')')

def nextBranch (frames : List GroupFrame) (parts : Parts) :
    Reader (List GroupFrame × Parts) := do
  let branch := parts.node (← place)
  bump
  let next : Parts := ⟨← place, []⟩
  match frames with
  | .choice start branches :: frames => return (.choice start (branch :: branches) :: frames, next)
  | frames => return (.choice parts.start [branch] :: frames, next)

/-! ## Repetition -/

/-- The part that a repetition applies to, and those before it. -/
def operand (parts : Parts) : Reader (Node × Parts) := do
  match parts.nodes with
  | [] => failAt .repetitionMissing (← here)
  | .empty :: _ => failAt .repetitionMissing (← here)
  | .flags _ _ :: _ => failAt .repetitionMissing (← here)
  | node :: before => return (node, { parts with nodes := before })

/-- A repetition that prefers fewer rounds matches the same texts. -/
def preference : Reader Unit := do
  if (← peek?) == some '?' then bump

def simpleRepetition (parts : Parts) (least : Nat) (most : Option Nat) : Reader Parts := do
  let (node, before) ← operand parts
  bump
  preference
  return before.push (.repetition (← since node.stretch.start) least most node)

/-- A number of 32 bits, or the fault that it has. -/
def decimal : Reader (Except Fault Nat) := do
  let _ ← take CharClass.isBlank bump
  let start ← place
  let digits ← take Char.isDigit advance
  let stretch ← since start
  let _ ← take CharClass.isBlank advance
  let number := Digits.number 10 digits
  if digits = [] then return .error (.wrong .countEmpty stretch none)
  if number < UInt32.size then return .ok number
  return .error (.wrong .decimalInvalid stretch none)

/-- The bounds between braces; a fault of the first one shows when the rest has been seen. -/
def bounds (start : Place) : Reader (Nat × Option Nat) := do
  let first ← decimal
  match ← peek? with
  | none => failAt .countUnclosed (← since start)
  | some ',' =>
    advance
    match ← peek? with
    | none => failAt .countUnclosed (← since start)
    | some '\x7d' => return (← first, none)
    | some _ =>
      let least ← first
      let most ← (← decimal)
      return (least, some most)
  | some _ =>
    let count ← first
    return (count, some count)

def countedRepetition (parts : Parts) : Reader Parts := do
  let start ← place
  let (node, before) ← operand parts
  advance
  if (← peek?).isNone then failAt .countUnclosed (← since start)
  let (least, most) ← bounds start
  if (← peek?) != some '\x7d' then failAt .countUnclosed (← since start)
  advance
  preference
  if most.any fun most => decide (most < least) then failAt .countOrder (← since start)
  return before.push (.repetition (← since node.stretch.start) least most node)

/-! ## The whole pattern -/

def simpleAtom (char : Char) : Reader Atom := do
  let stretch ← charStretch char
  match char with
  | '\\' => escape
  | '.' => bump; return .dot stretch
  | '^' => bump; return .assertion stretch .lineStart
  | '$' => bump; return .assertion stretch .lineEnd
  | other => bump; return .letter ⟨other, stretch, false⟩

def finish (frames : List GroupFrame) (parts : Parts) : Reader Node := do
  match finished parts (← place) frames with
  | (_, .group _ stretch _ _ :: _) => failAt .groupUnclosed stretch
  | (node, _) => return node

/-- Every round passes a character. -/
def patternUpTo : Nat → List GroupFrame → Parts → Reader Node
  | 0, frames, parts => finish frames parts
  | limit + 1, frames, parts => do
    skip
    match ← peek? with
    | none => finish frames parts
    | some '(' =>
      let (frames, parts) ← openGroup frames parts
      patternUpTo limit frames parts
    | some ')' =>
      let (frames, parts) ← closeGroup frames parts
      patternUpTo limit frames parts
    | some '|' =>
      let (frames, parts) ← nextBranch frames parts
      patternUpTo limit frames parts
    | some '[' => patternUpTo limit frames (parts.push (← bracketed))
    | some '?' => patternUpTo limit frames (← simpleRepetition parts 0 (some 1))
    | some '*' => patternUpTo limit frames (← simpleRepetition parts 0 none)
    | some '+' => patternUpTo limit frames (← simpleRepetition parts 1 none)
    | some '\x7b' => patternUpTo limit frames (← countedRepetition parts)
    | some char => patternUpTo limit frames (parts.push (.atom (← simpleAtom char)))

end Reader

/-! ## Depth -/

/-- One level deeper, at a part that stands on some stretch. -/
def deeper (depth : Nat) (stretch : Stretch) : Except Fault Nat :=
  if depth < nestingLimit then .ok (depth + 1) else .error (.wrong .nestedTooDeep stretch none)

mutual

def ClassTree.checkDepth (depth : Nat) : ClassTree → Except Fault Unit
  | .bracketed stretch _ inside => do
    inside.checkDepth (← deeper depth stretch)
  | .union stretch items => do
    ClassTree.checkDepths (← deeper depth stretch) items
  | .operation stretch _ left right => do
    let inner ← deeper depth stretch
    left.checkDepth inner
    right.checkDepth inner
  | _ => .ok ()

def ClassTree.checkDepths (depth : Nat) : List ClassTree → Except Fault Unit
  | [] => .ok ()
  | item :: rest => do
    item.checkDepth depth
    ClassTree.checkDepths depth rest

end

mutual

def Node.checkDepth (depth : Nat) : Node → Except Fault Unit
  | .bracketed stretch _ inside => do
    inside.checkDepth (← deeper depth stretch)
  | .repetition stretch _ _ inner => do
    inner.checkDepth (← deeper depth stretch)
  | .group stretch _ inner => do
    inner.checkDepth (← deeper depth stretch)
  | .alternation stretch branches => do
    Node.checkDepths (← deeper depth stretch) branches
  | .sequence stretch parts => do
    Node.checkDepths (← deeper depth stretch) parts
  | _ => .ok ()

def Node.checkDepths (depth : Nat) : List Node → Except Fault Unit
  | [] => .ok ()
  | node :: rest => do
    node.checkDepth depth
    Node.checkDepths depth rest

end

/-- The syntax of a pattern, if it is well formed. -/
def Node.ofText (text : String) : Except Fault Node := do
  let chars := text.toList
  let reader := Reader.patternUpTo (chars.length + 1) [] ⟨{}, []⟩
  let (node, _) ← reader.run { rest := chars }
  node.checkDepth 0
  return node

end Pattern

end ServiceRouting
