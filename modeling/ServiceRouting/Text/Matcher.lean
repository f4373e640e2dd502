/-!
# Matchers

How well a pattern sits in a choice is left to a matcher, and nothing is assumed of its scores but where
there are any (`Matcher.Sound`).  A matcher may keep something from one match to the next, so what it says
of a pattern and a choice can depend on the matches made before.
-/

set_option autoImplicit false

namespace ServiceRouting

class Matcher where
  State : Type
  /-- A matcher that has made no match yet. -/
  fresh : State
  /-- The score of a pattern in a choice, if it has one, and what is kept for the next match. -/
  score : State → (choice pattern : String) → Option Int × State

namespace Matcher

/-- The pattern's characters occur in the choice in order, ASCII case ignored. -/
def Fits (pattern choice : List Char) : Prop :=
  (pattern.map Char.toLower).Sublist (choice.map Char.toLower)

/-- A pattern has a score exactly where it has a character and fits. -/
def Sound (matcher : Matcher) : Prop :=
  ∀ state choice pattern, (matcher.score state choice pattern).1.isSome ↔
    pattern ≠ "" ∧ Fits pattern.toList choice.toList

end Matcher

end ServiceRouting
