import Mathlib.Data.List.Nodup
import ServiceRouting.Proofs.Text.ByteOrder
import ServiceRouting.Registry.Closest

/-!
# Ranks of names and the best of them

Whether a name is eligible for a query, and what its rank is, is said by the scores of the two texts in each
other (`Closest.Eligible`, `Closest.IsRank`).  A matcher that keeps something from match to match is asked
about each pair of texts at most once in a search, so its answers still are a function of the two texts
(`Matcher.exists_gives`), and the search finds the first name of the highest rank by this function
(`Closest.closest?_spec`).
-/

set_option autoImplicit false

namespace ServiceRouting

namespace Matcher

/-- Scores that hang on nothing but the two texts. -/
abbrev Scoring := (choice pattern : String) → Option Int

variable {score other : Scoring}
variable {asked : List (String × String)}

/-! ## The answers of a matcher -/

/-- The scores of these pairs, each a choice with a pattern, are there exactly where a pattern has a
character and fits. -/
def SoundOn (asked : List (String × String)) (score : Scoring) : Prop :=
  ∀ choice pattern, (choice, pattern) ∈ asked →
    ((score choice pattern).isSome ↔ pattern ≠ "" ∧ Fits pattern.toList choice.toList)

variable [matcher : Matcher]

/-- Asked about these pairs in turn, the matcher answers by `score`. -/
def Gives (score : Scoring) (state : matcher.State) : List (String × String) → Prop
  | [] => True
  | (choice, pattern) :: rest =>
    (matcher.score state choice pattern).1 = score choice pattern ∧
      Gives score (matcher.score state choice pattern).2 rest

/-- What the matcher keeps when it has been asked about these pairs. -/
def after (state : matcher.State) (asked : List (String × String)) : matcher.State :=
  asked.foldl (fun state pair => (matcher.score state pair.1 pair.2).2) state

theorem after_append (state : matcher.State) (first rest : List (String × String)) :
    after state (first ++ rest) = after (after state first) rest :=
  List.foldl_append

theorem gives_append {state : matcher.State} {first rest : List (String × String)} :
    Gives score state (first ++ rest) ↔
      Gives score state first ∧ Gives score (after state first) rest := by
  induction first generalizing state with
  | nil => exact (true_and _).to_iff.symm
  | cons pair first ih =>
    rw [List.cons_append, Gives, Gives, ih, and_assoc]
    rfl

theorem gives_of_stateless
    (stateless : ∀ state choice pattern,
      (matcher.score state choice pattern).1 = score choice pattern)
    (state : matcher.State) : Gives score state asked := by
  induction asked generalizing state with
  | nil => trivial
  | cons pair rest ih => exact ⟨stateless state pair.1 pair.2, ih _⟩

theorem Gives.congr {state : matcher.State} (gives : Gives score state asked)
    (same : ∀ pair ∈ asked, score pair.1 pair.2 = other pair.1 pair.2) :
    Gives other state asked := by
  induction asked generalizing state with
  | nil => trivial
  | cons pair rest ih =>
    refine ⟨gives.1.trans (same pair List.mem_cons_self), ih gives.2 ?_⟩
    exact fun later member => same later (List.mem_cons_of_mem pair member)

/-- Where no pair is asked about twice, the answers are a function of the pairs. -/
theorem exists_gives (state : matcher.State) (once : asked.Nodup) :
    ∃ score, Gives score state asked := by
  induction asked generalizing state with
  | nil => exact ⟨fun _ _ => none, trivial⟩
  | cons pair rest ih =>
    obtain ⟨new, once⟩ := List.nodup_cons.mp once
    let answer := matcher.score state pair.1 pair.2
    obtain ⟨score, gives⟩ := ih answer.2 once
    refine ⟨fun choice pattern => if (choice, pattern) = pair then answer.1 else score choice pattern,
      (if_pos rfl).symm, gives.congr ?_⟩
    intro later member
    have different : later ≠ pair := by
      rintro rfl
      exact new member
    exact (if_neg different).symm

theorem Gives.soundOn (sound : matcher.Sound) {state : matcher.State}
    (gives : Gives score state asked) : SoundOn asked score := by
  induction asked generalizing state with
  | nil => exact fun _ _ member => absurd member List.not_mem_nil
  | cons pair rest ih =>
    intro choice pattern member
    rcases List.mem_cons.mp member with rfl | later
    · rw [← gives.1]
      exact sound state choice pattern
    · exact ih gives.2 choice pattern later

end Matcher

namespace Closest

variable {score : Matcher.Scoring} {query name : String}

/-! ## Ranks -/

/-- The first text fits into the second and is at least half as long, in bytes. -/
def Qualifies (short long : String) : Prop :=
  Matcher.Fits short.toList long.toList ∧ long.utf8ByteSize ≤ 2 * short.utf8ByteSize

def Eligible (query name : String) : Prop :=
  Qualifies query name ∨ Qualifies name query

/-- The scores of a name, one for each direction that qualifies. -/
inductive Scored (score : Matcher.Scoring) (query name : String) : Int → Prop where
  | queryInName {value : Int} :
    Qualifies query name → score name query = some value → Scored score query name value
  | nameInQuery {value : Int} :
    Qualifies name query → score query name = some value → Scored score query name value

def IsRank (score : Matcher.Scoring) (query name : String) (value : Int) : Prop :=
  Scored score query name value ∧ ∀ other, Scored score query name other → other ≤ value

/-- Whether a matcher is asked about a pattern in a choice. -/
def trial (choice pattern : String) : List (String × String) :=
  if longEnough pattern choice then [(choice, pattern)] else []

/-- What a matcher is asked about a name. -/
def trials (query name : String) : List (String × String) :=
  trial name query ++ trial query name

theorem mem_trial {choice pattern : String} {pair : String × String} :
    pair ∈ trial choice pattern ↔ longEnough pattern choice ∧ pair = (choice, pattern) := by
  rw [trial]
  split <;> simp_all

theorem nodup_trials (different : name ≠ query) : (trials query name).Nodup := by
  have single (choice pattern : String) : (trial choice pattern).Nodup := by
    rw [trial]
    split
    · exact List.nodup_singleton _
    · exact List.nodup_nil
  refine List.nodup_append.mpr ⟨single name query, single query name, ?_⟩
  rintro _ first _ second rfl
  rw [mem_trial] at first second
  exact different (congrArg Prod.fst (first.2.symm.trans second.2))

/-- No pair is asked about twice in a search. -/
theorem nodup_flatMap_trials {names : List String} (nodup : names.Nodup)
    (absent : query ∉ names) : (names.flatMap (trials query)).Nodup := by
  refine List.nodup_flatMap.mpr ⟨?_, ?_⟩
  · intro name member
    exact nodup_trials fun same => absent (same ▸ member)
  · refine nodup.imp_of_mem ?_
    intro first second inFirst inSecond different pair here there
    simp only [trials, List.mem_append, mem_trial] at here there
    rcases here with ⟨_, rfl⟩ | ⟨_, rfl⟩ <;> rcases there with ⟨_, same⟩ | ⟨_, same⟩
    · exact different (congrArg Prod.fst same)
    · obtain rfl : first = query := congrArg Prod.fst same
      exact absent inFirst
    · obtain rfl : query = second := congrArg Prod.fst same
      exact absent inSecond
    · exact different (congrArg Prod.snd same)

def scoreIfLong (score : Matcher.Scoring) (choice pattern : String) : Option Int :=
  if longEnough pattern choice then score choice pattern else none

/-- The rank that the scores of a name give it. -/
def rankOf (score : Matcher.Scoring) (query name : String) : Option Int :=
  better (scoreIfLong score name query) (scoreIfLong score query name)

theorem scoreIfLong_eq_some_iff {choice pattern : String}
    (sound : Matcher.SoundOn (trial choice pattern) score) {value : Int} :
    scoreIfLong score choice pattern = some value ↔
      Qualifies pattern choice ∧ score choice pattern = some value := by
  rw [scoreIfLong]
  split
  · rename_i long
    refine ⟨fun found => ⟨⟨?_, of_decide_eq_true long⟩, found⟩, And.right⟩
    have scored := sound choice pattern (mem_trial.mpr ⟨long, rfl⟩)
    exact (scored.mp (Option.isSome_of_eq_some found)).2
  · rename_i short
    refine ⟨fun found => absurd found (Option.some_ne_none value).symm, ?_⟩
    rintro ⟨⟨_, long⟩, _⟩
    exact absurd (decide_eq_true long) short

theorem scoreIfLong_ne_none_iff {choice pattern : String}
    (sound : Matcher.SoundOn (trial choice pattern) score) (present : pattern ≠ "") :
    scoreIfLong score choice pattern ≠ none ↔ Qualifies pattern choice := by
  rw [Option.ne_none_iff_exists']
  constructor
  · rintro ⟨value, found⟩
    exact ((scoreIfLong_eq_some_iff sound).mp found).1
  · intro qualifies
    have scored := sound choice pattern (mem_trial.mpr ⟨decide_eq_true qualifies.2, rfl⟩)
    obtain ⟨value, found⟩ := Option.isSome_iff_exists.mp (scored.mpr ⟨present, qualifies.1⟩)
    exact ⟨value, (scoreIfLong_eq_some_iff sound).mpr ⟨qualifies, found⟩⟩

theorem better_eq_some_iff {first second : Option Int} {value : Int} :
    better first second = some value ↔
      (first = some value ∨ second = some value) ∧
        ∀ other, first = some other ∨ second = some other → other ≤ value := by
  cases first with
  | none =>
    cases second with
    | none => simp [better]
    | some second =>
      simp only [better, Option.some.injEq, reduceCtorEq, false_or]
      exact ⟨fun same => ⟨same, fun other found => by omega⟩, And.left⟩
  | some first =>
    cases second with
    | none =>
      simp only [better, Option.some.injEq, reduceCtorEq, or_false]
      exact ⟨fun same => ⟨same, fun other found => by omega⟩, And.left⟩
    | some second =>
      simp only [better, Option.some.injEq]
      constructor
      · rintro rfl
        exact ⟨by omega, fun other found => by omega⟩
      · rintro ⟨same, above⟩
        have firstBelow := above first (.inl rfl)
        have secondBelow := above second (.inr rfl)
        omega

theorem better_ne_none_iff {first second : Option Int} :
    better first second ≠ none ↔ first ≠ none ∨ second ≠ none := by
  cases first with
  | none => simp [better]
  | some first => cases second <;> simp [better]

section Sound

variable (sound : Matcher.SoundOn (trials query name) score)
include sound

theorem soundOn_trial : Matcher.SoundOn (trial name query) score ∧
    Matcher.SoundOn (trial query name) score :=
  ⟨fun choice pattern member => sound choice pattern (List.mem_append_left _ member),
    fun choice pattern member => sound choice pattern (List.mem_append_right _ member)⟩

theorem rankOf_eq_some_iff {value : Int} :
    rankOf score query name = some value ↔ IsRank score query name value := by
  obtain ⟨forward, backward⟩ := soundOn_trial sound
  have scored (found : Int) : Scored score query name found ↔
      scoreIfLong score name query = some found ∨ scoreIfLong score query name = some found := by
    rw [scoreIfLong_eq_some_iff forward, scoreIfLong_eq_some_iff backward]
    constructor
    · rintro (⟨qualifies, found⟩ | ⟨qualifies, found⟩)
      · exact .inl ⟨qualifies, found⟩
      · exact .inr ⟨qualifies, found⟩
    · rintro (⟨qualifies, found⟩ | ⟨qualifies, found⟩)
      · exact .queryInName qualifies found
      · exact .nameInQuery qualifies found
  simp only [rankOf, better_eq_some_iff, IsRank, scored]

theorem eligible_iff_exists_rank (asked : query ≠ "") (present : name ≠ "") :
    Eligible query name ↔ ∃ value, IsRank score query name value := by
  obtain ⟨forward, backward⟩ := soundOn_trial sound
  simp only [← rankOf_eq_some_iff sound]
  rw [← Option.ne_none_iff_exists', rankOf, better_ne_none_iff, scoreIfLong_ne_none_iff forward asked,
    scoreIfLong_ne_none_iff backward present, Eligible]

end Sound

/-! ## Names that differ in case only -/

theorem utf8Size_toLower (char : Char) : char.toLower.utf8Size = char.utf8Size := by
  unfold Char.toLower
  split
  · rename_i upper
    have low : 65 ≤ char.val.toNat := upper.1
    have high : char.val.toNat ≤ 90 := upper.2
    have size : char.utf8Size = 1 :=
      Char.utf8Size_eq_one_iff.mpr (UInt32.le_iff_toNat_le.mpr (high.trans (by decide)))
    rw [size, Char.utf8Size_eq_one_iff, UInt32.le_iff_toNat_le, UInt32.toNat_add]
    show (char.val.toNat + 32) % 2 ^ 32 ≤ 127
    omega
  · rfl

theorem utf8ByteSize_eq (text : String) :
    text.utf8ByteSize = (text.toList.flatMap String.utf8EncodeChar).length := by
  rw [← ByteOrder.bytes_eq]
  rfl

theorem length_encoded_toLower (chars : List Char) :
    ((chars.map Char.toLower).flatMap String.utf8EncodeChar).length =
      (chars.flatMap String.utf8EncodeChar).length := by
  induction chars with
  | nil => rfl
  | cons char rest ih =>
    rw [List.map_cons, List.flatMap_cons, List.flatMap_cons, List.length_append,
      List.length_append, ih, String.length_utf8EncodeChar, String.length_utf8EncodeChar,
      utf8Size_toLower]

theorem eligible_of_caseless
    (alike : query.toList.map Char.toLower = name.toList.map Char.toLower) :
    Eligible query name := by
  have sizes : query.utf8ByteSize = name.utf8ByteSize := by
    rw [utf8ByteSize_eq, utf8ByteSize_eq, ← length_encoded_toLower, alike, length_encoded_toLower]
  refine .inl ⟨?_, by omega⟩
  rw [Matcher.Fits, alike]

/-! ## The search -/

variable {Found : Type}

/-- The candidates that have a rank, each with its rank, in the order in which they are tried. -/
def ranked (score : Matcher.Scoring) (query : String)
    (candidates : List (String × Found)) : List (Int × Found) :=
  candidates.filterMap fun candidate =>
    (rankOf score query candidate.1).map fun value => (value, candidate.2)

theorem ranked_concat (candidates : List (String × Found)) (candidate : String × Found) :
    ranked score query (candidates ++ [candidate]) = ranked score query candidates ++
      ((rankOf score query candidate.1).map fun value => (value, candidate.2)).toList := by
  rw [ranked, List.filterMap_append, List.filterMap_cons, List.filterMap_nil]
  cases rankOf score query candidate.1 <;> rfl

theorem mem_ranked {candidates : List (String × Found)} {value : Int} {found : Found} :
    (value, found) ∈ ranked score query candidates ↔
      ∃ name, (name, found) ∈ candidates ∧ rankOf score query name = some value := by
  simp [ranked]

theorem ranked_sublist (score : Matcher.Scoring) (query : String)
    (candidates : List (String × Found)) :
    ((ranked score query candidates).map Prod.snd).Sublist (candidates.map Prod.snd) := by
  induction candidates with
  | nil => exact .slnil
  | cons candidate rest ih =>
    rw [ranked, List.filterMap_cons]
    cases rankOf score query candidate.1 with
    | none => exact ih.cons _
    | some value => exact ih.cons_cons _

/-- The first of the highest rank, if there is any. -/
inductive Best : List (Int × Found) → Option (Int × Found) → Prop where
  | nothing : Best [] none
  | first (before after : List (Int × Found)) {best : Int × Found}
    (below : ∀ earlier ∈ before, earlier.1 < best.1)
    (notAbove : ∀ later ∈ after, later.1 ≤ best.1) : Best (before ++ best :: after) (some best)

theorem Best.eq_none_iff {ranks : List (Int × Found)} {best : Option (Int × Found)}
    (holds : Best ranks best) : best = none ↔ ranks = [] := by
  cases holds <;> simp

theorem Best.mem {ranks : List (Int × Found)} {best : Int × Found}
    (holds : Best ranks (some best)) : best ∈ ranks := by
  cases holds with
  | first before after below notAbove => exact List.mem_append_right before List.mem_cons_self

/-- What stands before the best has a smaller rank, and what stands behind it no greater one. -/
theorem Best.cases_of_mem {ranks : List (Int × Found)} {best other : Int × Found}
    (holds : Best ranks (some best)) {rel : Int × Found → Int × Found → Prop}
    (ordered : ranks.Pairwise rel) (member : other ∈ ranks) :
    other.1 < best.1 ∨ other = best ∨ other.1 ≤ best.1 ∧ rel best other := by
  cases holds with
  | first before after below notAbove =>
    rcases List.mem_append.mp member with early | late
    · exact .inl (below other early)
    · rcases List.mem_cons.mp late with itself | late
      · exact .inr (.inl itself)
      · have behind := (List.pairwise_cons.mp (List.pairwise_append.mp ordered).2.1).1
        exact .inr (.inr ⟨notAbove other late, behind other late⟩)

/-- Takes another one only if its rank is above the best so far. -/
def replace (best : Option (Int × Found)) (new : Int × Found) : Int × Found :=
  match best with
  | none => new
  | some best => if best.1 < new.1 then new else best

theorem Best.concat {ranks : List (Int × Found)} {best : Option (Int × Found)}
    (holds : Best ranks best) (new : Int × Found) :
    Best (ranks ++ [new]) (some (replace best new)) := by
  cases holds with
  | nothing => exact .first [] [] (by simp) (by simp)
  | @first before after best below notAbove =>
    rw [replace]
    split
    · rename_i less
      refine .first _ [] ?_ (by simp)
      intro earlier member
      rcases List.mem_append.mp member with early | late
      · exact Int.lt_trans (below earlier early) less
      · rcases List.mem_cons.mp late with rfl | late
        · exact less
        · exact Int.lt_of_le_of_lt (notAbove earlier late) less
    · rename_i notLess
      rw [List.append_assoc, List.cons_append]
      refine .first before (after ++ [new]) below ?_
      intro later member
      rcases List.mem_append.mp member with early | late
      · exact notAbove later early
      · obtain rfl := List.mem_singleton.mp late
        exact Int.not_lt.mp notLess

variable [matcher : Matcher]

theorem direction_of_gives {state : matcher.State} {choice pattern : String}
    (gives : Matcher.Gives score state (trial choice pattern)) :
    direction state choice pattern =
      (scoreIfLong score choice pattern, Matcher.after state (trial choice pattern)) := by
  rw [trial] at gives ⊢
  rw [direction, scoreIfLong]
  split
  · rename_i long
    rw [if_pos long] at gives
    exact Prod.ext gives.1 rfl
  · rfl

theorem rank_of_gives {state : matcher.State}
    (gives : Matcher.Gives score state (trials query name)) :
    rank state query name =
      (rankOf score query name, Matcher.after state (trials query name)) := by
  obtain ⟨forward, backward⟩ := Matcher.gives_append.mp gives
  rw [trials, Matcher.after_append, rank, direction_of_gives forward, direction_of_gives backward,
    rankOf]

/-- Whether a candidate is taken or not, the best of those tried is found. -/
theorem Best.consider {tried : List (String × Found)} {search : Search Found}
    (holds : Best (ranked score query tried) search.best) {candidate : String × Found}
    (gives : Matcher.Gives score search.state (trials query candidate.1)) :
    (search.consider query candidate).state =
        Matcher.after search.state (trials query candidate.1) ∧
      Best (ranked score query (tried ++ [candidate])) (search.consider query candidate).best := by
  have here := rank_of_gives gives
  rw [ranked_concat, Search.consider, here]
  cases rankOf score query candidate.1 with
  | none => exact ⟨rfl, by simpa using holds⟩
  | some value =>
    have more := holds.concat (value, candidate.2)
    cases best : search.best with
    | none => exact ⟨rfl, by simpa [best, replace] using more⟩
    | some best => exact ⟨rfl, by simpa [best, replace] using more⟩

theorem best_foldl_consider (tried candidates : List (String × Found)) {search : Search Found}
    (holds : Best (ranked score query tried) search.best)
    (gives : Matcher.Gives score search.state
      ((candidates.map Prod.fst).flatMap (trials query))) :
    Best (ranked score query (tried ++ candidates))
      (candidates.foldl (Search.consider query) search).best := by
  induction candidates generalizing tried search with
  | nil => simpa using holds
  | cons candidate rest ih =>
    rw [List.map_cons, List.flatMap_cons, Matcher.gives_append] at gives
    obtain ⟨kept, next⟩ := holds.consider gives.1
    have later := ih _ next (kept ▸ gives.2)
    rwa [List.append_assoc, List.singleton_append] at later

theorem closest?_spec {candidates : List (String × Found)}
    (gives : Matcher.Gives score matcher.fresh
      ((candidates.map Prod.fst).flatMap (trials query))) :
    ∃ best, Best (ranked score query candidates) best ∧
      closest? query candidates = best.map Prod.snd := by
  have start : Best (ranked score query []) (⟨none, matcher.fresh⟩ : Search Found).best := .nothing
  exact ⟨_, best_foldl_consider [] candidates start gives, rfl⟩

end Closest

end ServiceRouting
