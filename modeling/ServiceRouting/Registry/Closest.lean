import ServiceRouting.Name
import ServiceRouting.Text.Matcher

/-!
# The registered service closest to a query

A name is eligible when it fits into the query or the query into it, and the fitting one is at
least half as long as the other, in bytes.  Its rank is the better score of the directions that
qualify.  Names are tried in their order by one matcher, and the first of the highest rank is taken.
-/

set_option autoImplicit false

namespace ServiceRouting

namespace Closest

variable [matcher : Matcher]

/-- Whether `short` is long enough to be matched into `long`. -/
def longEnough (short long : String) : Bool :=
  decide (long.utf8ByteSize ≤ 2 * short.utf8ByteSize)

/-- The score of `pattern` in `choice`, unless the pattern is too short for it. -/
def direction (state : matcher.State) (choice pattern : String) :
    Option Int × matcher.State :=
  if longEnough pattern choice then matcher.score state choice pattern else (none, state)

/-- The greater of two ranks, where no rank is below every rank. -/
def better : Option Int → Option Int → Option Int
  | none, second => second
  | first, none => first
  | some first, some second => some (max first second)

/-- The rank of a candidate: first the query is laid into it, then it into the query. -/
def rank (state : matcher.State) (query candidate : String) :
    Option Int × matcher.State :=
  let forward := direction state candidate query
  let backward := direction forward.2 query candidate
  (better forward.1 backward.1, backward.2)

structure Search (Found : Type) where
  best : Option (Int × Found)
  /-- What the matcher has kept so far. -/
  state : matcher.State

/-- Takes a candidate only if its rank is above the best so far. -/
def Search.consider {Found : Type} (query : String) (search : Search Found)
    (candidate : String × Found) : Search Found :=
  let ranked := rank search.state query candidate.1
  match ranked.1, search.best with
  | none, best => ⟨best, ranked.2⟩
  | some value, none => ⟨some (value, candidate.2), ranked.2⟩
  | some value, some best =>
    ⟨some (if best.1 < value then (value, candidate.2) else best), ranked.2⟩

def closest? {Found : Type} (query : String) (candidates : List (String × Found)) :
    Option Found :=
  ((candidates.foldl (Search.consider query) ⟨none, matcher.fresh⟩).best).map Prod.snd

end Closest

end ServiceRouting
