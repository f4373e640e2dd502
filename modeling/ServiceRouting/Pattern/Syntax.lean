import ServiceRouting.Pattern.Place

/-!
# The syntax of patterns

A pattern is built from characters, classes of characters and assertions by repetition, sequence
and choice.  Every part keeps the stretch that it is written on, under which its faults are
reported.  Flags change the meaning of what follows them in their group.
-/

set_option autoImplicit false

namespace ServiceRouting

namespace Pattern

inductive Flag where
  | caseless
  | multiline
  | dotAll
  | lazy
  | unicode
  | carriageReturns
  /-- White space and comments in the pattern mean nothing. -/
  | spaced
  deriving DecidableEq, Repr

def Flag.named? : Char → Option Flag
  | 'i' => some caseless
  | 'm' => some multiline
  | 's' => some dotAll
  | 'U' => some lazy
  | 'u' => some unicode
  | 'R' => some carriageReturns
  | 'x' => some spaced
  | _ => none

/-- Flags that are raised or lowered, in the order written. -/
abbrev FlagChanges := List (Flag × Bool)

/-! ## Single characters -/

structure Letter where
  char : Char
  stretch : Stretch
  /-- Written by two hexadecimal digits, it may stand for a byte. -/
  asByte : Bool
  deriving DecidableEq, Repr

inductive Boundary where
  | border
  | noBorder
  | start
  | stop
  /-- No word character stands before. -/
  | startHalf
  /-- No word character stands behind. -/
  | stopHalf
  deriving DecidableEq, Repr

inductive Assertion where
  | lineStart
  | lineEnd
  | textStart
  | textEnd
  | word (boundary : Boundary)
  deriving DecidableEq, Repr

/-- The classes that a single letter behind a backslash names. -/
inductive ShortClass where
  | digit
  | space
  | word
  deriving DecidableEq, Repr

/-- The classes that are named between colons. -/
inductive NamedClass where
  | alnum
  | alpha
  | ascii
  | blank
  | cntrl
  | digit
  | graph
  | lower
  | print
  | punct
  | space
  | upper
  | word
  | xdigit
  deriving DecidableEq, Repr

def NamedClass.named? : String → Option NamedClass
  | "alnum" => some alnum
  | "alpha" => some alpha
  | "ascii" => some ascii
  | "blank" => some blank
  | "cntrl" => some cntrl
  | "digit" => some digit
  | "graph" => some graph
  | "lower" => some lower
  | "print" => some print
  | "punct" => some punct
  | "space" => some space
  | "upper" => some upper
  | "word" => some word
  | "xdigit" => some xdigit
  | _ => none

/-- What stands for one character or for none; no part of it is a pattern itself. -/
inductive Atom where
  | letter (letter : Letter)
  | dot (stretch : Stretch)
  | assertion (stretch : Stretch) (assertion : Assertion)
  | short (stretch : Stretch) (negated : Bool) (kind : ShortClass)
  /-- A class by a property of characters, alone or with a value. -/
  | property (stretch : Stretch) (name : String) (hasValue : Bool)
  deriving DecidableEq, Repr

def Atom.stretch : Atom → Stretch
  | letter found => found.stretch
  | dot stretch => stretch
  | assertion stretch _ => stretch
  | short stretch _ _ => stretch
  | property stretch _ _ => stretch

/-! ## Classes in brackets -/

inductive ClassOperation where
  | intersection
  | difference
  | symmetricDifference
  deriving DecidableEq, Repr

inductive ClassTree where
  | empty (stretch : Stretch)
  | letter (letter : Letter)
  | range (stretch : Stretch) (first last : Letter)
  | named (stretch : Stretch) (negated : Bool) (kind : NamedClass)
  | short (stretch : Stretch) (negated : Bool) (kind : ShortClass)
  | property (stretch : Stretch) (name : String) (hasValue : Bool)
  | bracketed (stretch : Stretch) (negated : Bool) (inside : ClassTree)
  | union (stretch : Stretch) (items : List ClassTree)
  | operation (stretch : Stretch) (kind : ClassOperation) (left right : ClassTree)

def ClassTree.stretch : ClassTree → Stretch
  | empty stretch => stretch
  | letter found => found.stretch
  | range stretch _ _ => stretch
  | named stretch _ _ => stretch
  | short stretch _ _ => stretch
  | property stretch _ _ => stretch
  | bracketed stretch _ _ => stretch
  | union stretch _ => stretch
  | operation stretch _ _ _ => stretch

/-! ## Patterns -/

inductive Node where
  | empty
  | flags (stretch : Stretch) (changes : FlagChanges)
  | atom (atom : Atom)
  | bracketed (stretch : Stretch) (negated : Bool) (inside : ClassTree)
  /-- At least `least` times, and at most `most` times if that is given. -/
  | repetition (stretch : Stretch) (least : Nat) (most : Option Nat) (inner : Node)
  | group (stretch : Stretch) (changes : FlagChanges) (inner : Node)
  | alternation (stretch : Stretch) (branches : List Node)
  | sequence (stretch : Stretch) (parts : List Node)

def Node.stretch : Node → Stretch
  | empty => .empty {}
  | flags stretch _ => stretch
  | atom found => found.stretch
  | bracketed stretch _ _ => stretch
  | repetition stretch _ _ _ => stretch
  | group stretch _ _ => stretch
  | alternation stretch _ => stretch
  | sequence stretch _ => stretch

end Pattern

end ServiceRouting
