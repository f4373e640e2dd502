/-!
# Places in a pattern

A place is a line and a column, both counted from one; columns count characters.  A stretch lies
between two places and may be empty.
-/

set_option autoImplicit false

namespace ServiceRouting

structure Place where
  line : Nat := 1
  column : Nat := 1
  deriving DecidableEq, Repr

/-- The place behind a character. -/
def Place.after (place : Place) (char : Char) : Place :=
  if char = '\n' then ⟨place.line + 1, 1⟩ else ⟨place.line, place.column + 1⟩

/-- From the place `start` to the place `stop`, which is not part of it. -/
structure Stretch where
  start : Place
  stop : Place
  deriving DecidableEq, Repr

namespace Stretch

/-- The empty stretch at a place. -/
def empty (place : Place) : Stretch :=
  ⟨place, place⟩

def onOneLine (stretch : Stretch) : Bool :=
  stretch.start.line == stretch.stop.line

/-- How many columns a stretch on one line fills; an empty one is marked in one column. -/
def columns (stretch : Stretch) : Nat :=
  max 1 (stretch.stop.column - stretch.start.column)

/-- The order of two stretches in a text. -/
def before (first second : Stretch) : Bool :=
  let key (stretch : Stretch) : List Nat :=
    [stretch.start.line, stretch.start.column, stretch.stop.line, stretch.stop.column]
  !(key second).lex (key first)

end Stretch

end ServiceRouting
