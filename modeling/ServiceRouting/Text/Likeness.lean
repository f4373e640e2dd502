import ServiceRouting.Text.Matcher

/-!
# How well one text sits inside another

This is the matcher that the program runs with.  A pattern that fits its choice
(`fitPositions_isSome_iff`) is scored by the best way to lay it over the choice: every character
counts, one of the same case more; characters that start a word or follow one another count extra,
and gaps cost.

The score is filled in on a board of two rows that take turns, one row per pattern character.  The
matcher keeps its board from one match to the next and only cuts or extends it, and a cell's bonus
stays from an earlier turn until it is overwritten, so a score can depend on the matches made
before.
-/

set_option autoImplicit false

namespace ServiceRouting

namespace Likeness

def sameLetter (first second : Char) : Bool :=
  first.toLower == second.toLower

/-- The positions of the pattern's characters in the choice, each the first one possible. -/
def fitPositions (position : Nat) : List Char → List Char → Option (List Nat)
  | _, [] => some []
  | [], _ :: _ => none
  | char :: choice, wanted :: pattern =>
    if sameLetter char wanted then
      (fitPositions (position + 1) choice pattern).map (position :: ·)
    else fitPositions (position + 1) choice (wanted :: pattern)

theorem fitPositions_isSome_iff (position : Nat) (choice pattern : List Char) :
    (fitPositions position choice pattern).isSome ↔ Matcher.Fits pattern choice := by
  induction choice generalizing position pattern with
  | nil => cases pattern <;> simp [fitPositions, Matcher.Fits]
  | cons char choice ih =>
    cases pattern with
    | nil => simp [fitPositions, Matcher.Fits]
    | cons wanted pattern =>
      rw [fitPositions]
      split
      · rename_i same
        have letters : char.toLower = wanted.toLower := by simpa [sameLetter] using same
        rw [Option.isSome_map, ih]
        simp [Matcher.Fits, letters]
      · rename_i different
        have letters : ¬ wanted.toLower = char.toLower := by
          intro same
          exact different (by simp [sameLetter, same])
        rw [ih]
        unfold Matcher.Fits
        rw [List.map_cons, List.map_cons]
        simp [List.sublist_cons_iff, letters]

/-! ## The board -/

structure Cell where
  /-- Best score with the pattern character laid here. -/
  here : Int
  /-- Best score with the pattern character laid somewhere before. -/
  before : Int
  bonus : Int
  deriving DecidableEq, Repr

def unreachable : Int := -32768

def Cell.blank : Cell := ⟨unreachable, unreachable, 0⟩

def Cell.start : Cell := ⟨unreachable, -1, 0⟩

/-- The two rows, one after the other. -/
abbrev Board := Array Cell

def Board.cell (board : Board) (index : Nat) : Cell :=
  board.getD index Cell.blank

def Board.put (board : Board) (index : Nat) (cell : Cell) : Board :=
  board.setIfInBounds index cell

/-- Cuts or extends the board to the given size. -/
def Board.resize (board : Board) (size : Nat) : Board :=
  board.extract 0 size ++ Array.replicate (size - board.size) Cell.blank

/-- Makes a board ready for a match whose first character sits at `first`: the row of the empty
pattern is reset, the other row only in that one cell. -/
def Board.prepare (board : Board) (columns first : Nat) : Board :=
  let sized := (board.resize (2 * columns)).put (columns + first) Cell.blank
  (List.range columns).foldl (fun current column => current.put column Cell.start) sized

/-! ## Bonuses of the characters of a choice -/

def separates (char : Char) : Bool :=
  char.toNat == 0 || " /\\|()[]\x7b\x7d".toList.contains char

def punctuates (char : Char) : Bool :=
  ('!' ≤ char && char.toNat ≤ 0x27) || ('*' ≤ char && char ≤ '.') ||
    (':' ≤ char && char ≤ '@') || ('^' ≤ char && char.toNat ≤ 0x60) || char == '~'

def placeBonus (previous char : Char) : Int :=
  if separates previous then 8
  else if punctuates previous then 7
  else if char.isUpper && !previous.isUpper then 6
  else 0

/-- The bonus of every place of the choice; the first one counts twice. -/
def placeBonuses (choice : List Char) : List Int :=
  let places := (Char.ofNat 0 :: choice).zipWith placeBonus choice
  match places with
  | [] => []
  | first :: rest => 2 * first :: rest

/-! ## Filling the board -/

/-- One cell: the character `char` of the choice in column `column` against `wanted`. -/
def fillCell (columns row : Nat) (wanted : Char) (board : Board)
    (place : Nat × Char × Int) : Board :=
  let (column, char, bonus) := place
  let current := row * columns + column + 1
  let beside := row * columns + column
  let above := (1 - row) * columns + column
  if sameLetter char wanted then
    let running := max (max (board.cell beside).bonus bonus) 4
    let marked := board.put beside { board.cell beside with bonus := running }
    let previous := marked.cell above
    let reached := max (previous.here + running) (previous.before + bonus)
    let here := reached + if char = wanted then 16 else 14
    marked.put current { marked.cell current with
      here := here
      before := max ((marked.cell beside).here - 4) ((marked.cell beside).before - 1) }
  else
    board.put current ⟨unreachable,
      max ((board.cell beside).here - 4) ((board.cell beside).before - 1), 0⟩

/-- The places of a choice: position, character and bonus. -/
def places (choice : List Char) : List (Nat × Char × Int) :=
  (List.range choice.length).zip (choice.zip (placeBonuses choice))

/-- One row for every pattern character, each begun at that character's first position. -/
def fillRows (columns : Nat) (choicePlaces : List (Nat × Char × Int)) :
    (row : Nat) → List Char → List Nat → Board → Board
  | row, wanted :: pattern, first :: firsts, board =>
    let filled := (choicePlaces.drop first).foldl (fillCell columns row wanted) board
    fillRows columns choicePlaces (1 - row) pattern firsts filled
  | _, _, _, board => board

/-- Scores a pattern in a choice.  Where the pattern does not fit, the board is left alone. -/
def score (board : Board) (choice pattern : List Char) : Option Int × Board :=
  match fitPositions 0 choice pattern with
  | some (first :: firsts) =>
    let columns := choice.length + 1
    let filled := fillRows columns (places choice) 1 pattern (first :: firsts)
      (board.prepare columns first)
    let row := pattern.length % 2
    let last := (first :: firsts).getLast (List.cons_ne_nil first firsts)
    let ends := (List.range' last (columns - last)).map fun column =>
      (filled.cell (row * columns + column)).here
    (some (ends.foldl max ((filled.cell (row * columns + last)).here)), filled)
  | _ => (none, board)

theorem score_isSome_iff (board : Board) (choice pattern : List Char) :
    (score board choice pattern).1.isSome ↔ pattern ≠ [] ∧ Matcher.Fits pattern choice := by
  rw [← fitPositions_isSome_iff 0 choice pattern]
  unfold score
  cases pattern with
  | nil => simp [fitPositions]
  | cons wanted pattern =>
    cases positions : fitPositions 0 choice (wanted :: pattern) with
    | none => simp
    | some found =>
      cases found with
      | cons first firsts => simp
      | nil =>
        exfalso
        clear board
        revert positions
        generalize 0 = position
        induction choice generalizing position with
        | nil => simp [fitPositions]
        | cons char choice ih =>
          rw [fitPositions]
          split
          · simp
          · exact ih _

instance matcher : Matcher where
  State := Board
  fresh := #[]
  score board choice pattern := score board choice.toList pattern.toList

theorem matcher_sound : matcher.Sound := by
  intro board choice pattern
  have scored := score_isSome_iff board choice.toList pattern.toList
  rwa [ne_eq, String.toList_eq_nil_iff] at scored

end Likeness

end ServiceRouting
