/-!
# Texts cut at a separator

Cutting keeps empty pieces: a text always has one piece more than it has separators.
-/

set_option autoImplicit false

namespace ServiceRouting

namespace Pieces

/-- The piece before the first separator, and all later ones. -/
def cutFirst (separator : Char) : List Char → List Char × List (List Char)
  | [] => ([], [])
  | char :: rest =>
    let later := cutFirst separator rest
    if char = separator then ([], later.1 :: later.2) else (char :: later.1, later.2)

def cut (separator : Char) (text : List Char) : List (List Char) :=
  (cutFirst separator text).1 :: (cutFirst separator text).2

/-- The pieces of a text between separators. -/
def ofText (separator : Char) (text : String) : List String :=
  (cut separator text.toList).map String.ofList

/-- The text before the first separator and the text after it, if there is a separator. -/
def splitOnce? (separator : Char) : List Char → Option (List Char × List Char)
  | [] => none
  | char :: rest =>
    if char = separator then some ([], rest)
    else (splitOnce? separator rest).map fun halves => (char :: halves.1, halves.2)

theorem splitOnce?_eq_some_iff {separator : Char} {text before after : List Char} :
    splitOnce? separator text = some (before, after) ↔
      text = before ++ separator :: after ∧ separator ∉ before := by
  induction text generalizing before with
  | nil => simp [splitOnce?]
  | cons char rest ih =>
    rw [splitOnce?]
    split
    · rename_i same
      subst same
      cases before with
      | nil => simp
      | cons head tail =>
        constructor
        · intro impossible
          simp at impossible
        · rintro ⟨heads, absent⟩
          cases heads
          simp at absent
    · rename_i different
      cases before with
      | nil =>
        simp only [Option.map_eq_some_iff, Prod.mk.injEq, reduceCtorEq, false_and, and_false,
          exists_false, List.nil_append, List.cons.injEq, List.not_mem_nil, not_false_eq_true,
          and_true, false_iff, not_and]
        intro same
        exact absurd same different
      | cons head tail =>
        simp only [Option.map_eq_some_iff, Prod.mk.injEq, List.cons.injEq, List.cons_append,
          List.mem_cons, not_or]
        constructor
        · rintro ⟨halves, found, ⟨rfl, rfl⟩, rfl⟩
          obtain ⟨parts, absent⟩ := ih.mp found
          exact ⟨⟨rfl, parts⟩, Ne.symm different, absent⟩
        · rintro ⟨⟨rfl, parts⟩, _, absent⟩
          exact ⟨(tail, after), ih.mpr ⟨parts, absent⟩, ⟨rfl, rfl⟩, rfl⟩

end Pieces

end ServiceRouting
