import ServiceRouting.Pattern.Escape

/-!
# Classes in brackets

A class lists characters, ranges and other classes; operators between lists bind to the left and
weaker than the lists.  Brackets and operators that are still open are kept on a stack of frames.
-/

set_option autoImplicit false

namespace ServiceRouting

namespace Pattern

/-- A list of items in the making. -/
structure ClassUnion where
  stretch : Stretch
  items : List ClassTree := []

namespace ClassUnion

def push (union : ClassUnion) (item : ClassTree) : ClassUnion :=
  let start := if union.items.isEmpty then item.stretch.start else union.stretch.start
  ⟨⟨start, item.stretch.stop⟩, union.items ++ [item]⟩

def tree (union : ClassUnion) : ClassTree :=
  match union.items with
  | [] => .empty union.stretch
  | [item] => item
  | items => .union union.stretch items

end ClassUnion

inductive ClassFrame where
  /-- An open bracket, with the list that it stands in. -/
  | opened (outer : ClassUnion) (stretch : Stretch) (negated : Bool)
  | operand (kind : ClassOperation) (left : ClassTree)

/-- Applies the operator on top of the stack, if there is one. -/
def applyOperator (right : ClassTree) : List ClassFrame → ClassTree × List ClassFrame
  | .operand kind left :: frames =>
    (.operation ⟨left.stretch.start, right.stretch.stop⟩ kind left right, frames)
  | frames => (right, frames)

/-- A class named between colons at the start of a text, and how it is written. -/
def namedClassAt? (text : List Char) : Option (String × Bool × NamedClass) := do
  let later ← match text with
    | '[' :: ':' :: later => some later
    | _ => none
  let negated := later.head? == some '^'
  let later := if negated then later.tail else later
  let name := String.ofList (later.takeWhile fun char => char != ':')
  guard ([':', ']'].isPrefixOf (later.dropWhile fun char => char != ':'))
  let kind ← NamedClass.named? name
  return ("[:" ++ (if negated then "^" else "") ++ name ++ ":]", negated, kind)

namespace Reader

def unclosedClass {Result : Type} (frames : List ClassFrame) : Reader Result := do
  let opened := frames.findSome? fun frame =>
    match frame with
    | .opened _ stretch _ => some stretch
    | .operand _ _ => none
  failAt .classUnclosed (opened.getD (← here))

/-! ## Items -/

def verbatim (char : Char) : Reader Letter := do
  return ⟨char, ← charStretch char, false⟩

/-- Hyphens at the start of a class stand for themselves. -/
def hyphens (start : Place) : Nat → ClassUnion → Reader ClassUnion
  | 0, union => return union
  | limit + 1, union => do
    if (← peek?) != some '-' then return union
    let letter ← verbatim '-'
    advance
    if (← peek?).isNone then failAt .classUnclosed (.empty start)
    hyphens start limit (union.push (.letter letter))

/-- A closing bracket at the start of a class stands for itself. -/
def firstBracket (start : Place) (union : ClassUnion) : Reader ClassUnion := do
  if union.items.isEmpty && (← peek?) == some ']' then
    let letter ← verbatim ']'
    advance
    if (← peek?).isNone then failAt .classUnclosed (← since start)
    return union.push (.letter letter)
  else return union

/-- The start of a class, up to its first item that is not special. -/
def openClass (outer : ClassUnion) : Reader (ClassFrame × ClassUnion) := do
  let start ← place
  advance
  if (← peek?).isNone then failAt .classUnclosed (← since start)
  let negated := (← peek?) == some '^'
  if negated then
    advance
    if (← peek?).isNone then failAt .classUnclosed (← since start)
  let union ← hyphens start (← get).rest.length ⟨← here, []⟩
  let union ← firstBracket start union
  return (.opened outer (← since start) negated, union)

def classAtom (char : Char) : Reader Atom := do
  if char == '\\' then escape
  else
    let letter ← verbatim char
    bump
    return .letter letter

def itemOf : Atom → Reader ClassTree
  | .letter letter => return .letter letter
  | .short stretch negated kind => return .short stretch negated kind
  | .property stretch name hasValue => return .property stretch name hasValue
  | other => failAt .classEscape other.stretch

def endOfRange : Atom → Reader Letter
  | .letter letter => return letter
  | other => failAt .classRangeEnd other.stretch

/-- A character or class, or two characters with a hyphen between them. -/
def classItem (frames : List ClassFrame) (char : Char) : Reader ClassTree := do
  let first ← classAtom char
  skip
  if (← peek?).isNone then unclosedClass frames
  let behind ← meaningfulSecond?
  if (← peek?) != some '-' || behind == some ']' || behind == some '-' then itemOf first
  else
    advance
    match ← peek? with
    | none => unclosedClass frames
    | some char =>
      let last ← classAtom char
      let stretch : Stretch := ⟨first.stretch.start, last.stretch.stop⟩
      let low ← endOfRange first
      let high ← endOfRange last
      if high.char < low.char then failAt .classRangeOrder stretch
      return .range stretch low high

/-! ## The whole class -/

/-- An operator, which is its sign written twice. -/
def operator? : Reader (Option ClassOperation) := do
  if ← passes "&&" then return some .intersection
  if ← passes "--" then return some .difference
  if ← passes "~~" then return some .symmetricDifference
  return none

def namedItem? : Reader (Option ClassTree) := do
  match namedClassAt? (← get).rest with
  | none => return none
  | some (written, negated, kind) =>
    let start ← place
    let _ ← passes written
    return some (.named (← since start) negated kind)

/-- A bracket opens a class inside another one, unless it starts the name of one. -/
def innerClass (frames : List ClassFrame) (union : ClassUnion) :
    Reader (List ClassFrame × ClassUnion) := do
  match ← namedItem? with
  | some item => return (frames, union.push item)
  | none =>
    let (frame, inner) ← openClass union
    return (frame :: frames, inner)

/-- Reads up to the bracket that closes the first frame.  Every round passes a character. -/
def classUpTo : Nat → List ClassFrame → ClassUnion → Reader Node
  | 0, frames, _ => unclosedClass frames
  | limit + 1, frames, union => do
    skip
    match ← peek? with
    | none => unclosedClass frames
    | some '[' =>
      let (frames, union) ← innerClass frames union
      classUpTo limit frames union
    | some ']' =>
      let (inside, frames) := applyOperator union.tree frames
      bump
      match frames with
      | [.opened _ stretch negated] =>
        return .bracketed ⟨stretch.start, ← place⟩ negated inside
      | .opened outer stretch negated :: frames =>
        let whole : ClassTree := .bracketed ⟨stretch.start, ← place⟩ negated inside
        classUpTo limit frames (outer.push whole)
      | _ => unclosedClass frames
    | some char =>
      match ← operator? with
      | some kind =>
        let (left, frames) := applyOperator union.tree frames
        classUpTo limit (.operand kind left :: frames) ⟨← here, []⟩
      | none =>
        let item ← classItem frames char
        classUpTo limit frames (union.push item)

def bracketed : Reader Node := do
  let limit := (← get).rest.length
  let (frame, union) ← openClass ⟨← here, []⟩
  classUpTo limit [frame] union

end Reader

end Pattern

end ServiceRouting
