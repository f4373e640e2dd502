import Mathlib.Data.List.DropRight
import ServiceRouting.Text.Layout

/-!
# What trimming leaves

A text is trimmed to the one part of it that neither starts nor ends with white space and has nothing
but white space around it (`Layout.trim_eq_iff`).
-/

set_option autoImplicit false

namespace ServiceRouting

/-- What is dropped from the end stops at the first character that does not pass. -/
theorem rdropWhile_append {test : Char → Bool} {body ending : List Char}
    (passed : ∀ char ∈ ending, test char) (stays : ∀ char ∈ body.getLast?, ¬ test char) :
    (body ++ ending).rdropWhile test = body := by
  have reversed : ∀ char ∈ ending.reverse, test char := by
    intro char member
    exact passed char (List.mem_reverse.mp member)
  rw [List.rdropWhile, List.reverse_append, List.dropWhile_append_of_pos reversed]
  cases body using List.reverseRecOn with
  | nil => rfl
  | append_singleton front last =>
    have kept : ¬ test last := stays last (by simp)
    rw [List.reverse_append, List.reverse_singleton, List.singleton_append,
      List.dropWhile_cons_of_neg kept, List.reverse_cons, List.reverse_reverse]

namespace Layout

def Blank (text : List Char) : Prop :=
  ∀ char ∈ text, CharClass.isBlank char

/-- No white space stands at either end. -/
structure Bare (text : List Char) : Prop where
  start : ∀ char ∈ text.head?, ¬ CharClass.isBlank char
  ending : ∀ char ∈ text.getLast?, ¬ CharClass.isBlank char

/-- The bare part of a text that has only white space around it. -/
def TrimsTo (text bare : List Char) : Prop :=
  Bare bare ∧ ∃ left right, text = left ++ bare ++ right ∧ Blank left ∧ Blank right

variable {text bare : List Char}

theorem trim_eq_rdropWhile (text : List Char) :
    trim text = (text.dropWhile CharClass.isBlank).rdropWhile CharClass.isBlank := rfl

theorem bare_trim (text : List Char) : Bare (trim text) := by
  have cut : trim text <+: text.dropWhile CharClass.isBlank := List.rdropWhile_prefix _ _
  constructor
  case start =>
    intro char first
    obtain ⟨rest, whole⟩ := cut
    have started : (text.dropWhile CharClass.isBlank).head? = some char := by
      rw [← whole, List.head?_append, Option.mem_def.mp first, Option.some_or]
    have shown := List.head?_dropWhile_not CharClass.isBlank text
    rw [started] at shown
    simpa using shown
  case ending =>
    intro char last
    have filled : trim text ≠ [] := by
      rintro empty
      simp [empty] at last
    have shown := List.rdropWhile_last_not CharClass.isBlank _ filled
    rw [List.getLast?_eq_some_getLast filled, Option.mem_some_iff] at last
    rwa [← last]

theorem trimsTo_trim (text : List Char) : TrimsTo text (trim text) := by
  refine ⟨bare_trim text, text.takeWhile CharClass.isBlank,
    (text.dropWhile CharClass.isBlank).rtakeWhile CharClass.isBlank, ?_, ?_, ?_⟩
  · rw [trim_eq_rdropWhile, List.append_assoc, List.rdropWhile_append_rtakeWhile,
      List.takeWhile_append_dropWhile]
  · intro char member
    exact List.mem_takeWhile_imp member
  · intro char member
    exact List.mem_rtakeWhile_imp member

theorem TrimsTo.trim_eq (trimmed : TrimsTo text bare) : trim text = bare := by
  obtain ⟨⟨start, ending⟩, left, right, rfl, leftBlank, rightBlank⟩ := trimmed
  have front : (left ++ bare ++ right).dropWhile CharClass.isBlank =
      (bare ++ right).dropWhile CharClass.isBlank := by
    rw [List.append_assoc, List.dropWhile_append_of_pos leftBlank]
  rw [trim_eq_rdropWhile, front]
  cases bare with
  | nil => simp [List.dropWhile_eq_nil_iff.mpr rightBlank]
  | cons char rest =>
    have shown : ¬ CharClass.isBlank char := start char rfl
    rw [List.cons_append, List.dropWhile_cons_of_neg shown, ← List.cons_append,
      rdropWhile_append rightBlank ending]

theorem trim_eq_iff : trim text = bare ↔ TrimsTo text bare := by
  constructor
  · rintro rfl
    exact trimsTo_trim text
  · exact TrimsTo.trim_eq

theorem trim_of_bare (shown : Bare text) : trim text = text :=
  trim_eq_iff.mpr ⟨shown, [], [], by simp, by simp [Blank], by simp [Blank]⟩

theorem trim_eq_nil_iff : trim text = [] ↔ Blank text := by
  rw [trim_eq_iff]
  constructor
  · rintro ⟨_, left, right, rfl, leftBlank, rightBlank⟩ char member
    rcases List.mem_append.mp member with inLeft | inRight
    · exact leftBlank char (by simpa using inLeft)
    · exact rightBlank char inRight
  · intro blank
    exact ⟨⟨by simp, by simp⟩, text, [], by simp, blank, by simp [Blank]⟩

end Layout

end ServiceRouting
