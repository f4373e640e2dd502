/-!
# Sets of characters

A set of code points as ranges in increasing order that do not touch.  A set also knows whether it
holds both cases of every letter in it; this is taken for granted of the empty set alone.
-/

set_option autoImplicit false

namespace ServiceRouting

structure CharSet where
  ranges : List (Nat × Nat) := []
  caseClosed : Bool := true
  deriving DecidableEq, Repr

namespace CharSet

/-- The greatest code point. -/
def lastCode : Nat := 0x10ffff

def covers (set : CharSet) (char : Char) : Bool :=
  set.ranges.any fun range => decide (range.1 ≤ char.toNat) && decide (char.toNat ≤ range.2)

/-! ## Ranges -/

/-- Joins the ranges that touch the one before them. -/
def joinFrom (first last : Nat) : List (Nat × Nat) → List (Nat × Nat)
  | [] => [(first, last)]
  | (start, stop) :: rest =>
    if start ≤ last + 1 then joinFrom first (max last stop) rest
    else (first, last) :: joinFrom start stop rest

def normalize (ranges : List (Nat × Nat)) : List (Nat × Nat) :=
  match ranges.mergeSort fun first second => decide (first.1 ≤ second.1) with
  | [] => []
  | (first, last) :: rest => joinFrom first last rest

/-- The code points from `start` to `last` that are in none of the ranges. -/
def gapsFrom (start last : Nat) : List (Nat × Nat) → List (Nat × Nat)
  | [] => if start ≤ last then [(start, last)] else []
  | (first, stop) :: rest =>
    if start < first then (start, first - 1) :: gapsFrom (stop + 1) last rest
    else gapsFrom (stop + 1) last rest

def unionRanges (first second : List (Nat × Nat)) : List (Nat × Nat) :=
  normalize (first ++ second)

def commonRanges (first second : List (Nat × Nat)) : List (Nat × Nat) :=
  gapsFrom 0 lastCode (unionRanges (gapsFrom 0 lastCode first) (gapsFrom 0 lastCode second))

def otherRanges (first second : List (Nat × Nat)) : List (Nat × Nat) :=
  commonRanges first (gapsFrom 0 lastCode second)

/-! ## Sets -/

/-- Ranges of code points, about whose cases nothing is known. -/
def ofRanges (ranges : List (Nat × Nat)) : CharSet :=
  ⟨normalize ranges, ranges.isEmpty⟩

def ofChar (char : Char) : CharSet :=
  ofRanges [(char.toNat, char.toNat)]

def push (set : CharSet) (first last : Char) : CharSet :=
  ⟨unionRanges set.ranges [(first.toNat, last.toNat)], false⟩

def union (first second : CharSet) : CharSet :=
  if second.ranges = [] ∨ first.ranges = second.ranges then first
  else ⟨unionRanges first.ranges second.ranges, first.caseClosed && second.caseClosed⟩

def intersection (first second : CharSet) : CharSet :=
  if first.ranges = [] then first
  else if second.ranges = [] then {}
  else ⟨commonRanges first.ranges second.ranges, first.caseClosed && second.caseClosed⟩

def difference (first second : CharSet) : CharSet :=
  if first.ranges = [] ∨ second.ranges = [] then first
  else ⟨otherRanges first.ranges second.ranges, first.caseClosed && second.caseClosed⟩

def symmetricDifference (first second : CharSet) : CharSet :=
  (first.union second).difference (first.intersection second)

/-- All code points up to `last` that are not in the set. -/
def complement (last : Nat) (set : CharSet) : CharSet :=
  if set.ranges = [] then ⟨[(0, last)], true⟩
  else ⟨gapsFrom 0 last set.ranges, set.caseClosed⟩

def isAscii (set : CharSet) : Bool :=
  set.ranges.all fun range => decide (range.2 < 0x80)

/-! ## Cases -/

/-- The part of a range between two code points, moved by the distance of the cases. -/
def otherCase (low high : Nat) (move : Nat → Nat) (range : Nat × Nat) : List (Nat × Nat) :=
  let first := max low range.1
  let last := min high range.2
  if first ≤ last then [(move first, move last)] else []

/-- The set with both cases of every letter of ASCII in it. -/
def closeCases (set : CharSet) : CharSet :=
  let upper := set.ranges.flatMap (otherCase 0x61 0x7a (· - 0x20))
  let lower := set.ranges.flatMap (otherCase 0x41 0x5a (· + 0x20))
  ⟨normalize (set.ranges ++ upper ++ lower), true⟩

end CharSet

end ServiceRouting
