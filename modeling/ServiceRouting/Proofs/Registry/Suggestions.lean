import ServiceRouting.Proofs.Registry.Closest
import ServiceRouting.Proofs.Registry.Reflects
import ServiceRouting.Text.Likeness

/-!
# Which registered service is suggested

An unknown name comes with the eligible registered name of the greatest rank, and of several such names
with the smallest.  This is so for every matcher, and the order of the registrations plays no part.  The
main statement is `suggestion_exact`.
-/

set_option autoImplicit false

namespace ServiceRouting

namespace Registry

variable {registry : Registry} {query : String} {score : Matcher.Scoring}

/-! ## Candidates -/

/-- The registered services in the order in which they are tried. -/
def candidates (registry : Registry) : List (String × Suggestion) :=
  registry.services.entries.map fun entry => (entry.1.text, ⟨entry.1, entry.2⟩)

def names (registry : Registry) : List String :=
  registry.services.keys.map ServiceName.text

theorem map_fst_candidates : registry.candidates.map Prod.fst = registry.names := by
  simp [candidates, names, SortedMap.keys]

theorem mem_candidates_iff {name : String} {found : Suggestion} :
    (name, found) ∈ registry.candidates ↔
      found.service.text = name ∧ registry.owner? name = some found.provider := by
  rw [candidates, List.mem_map]
  constructor
  · rintro ⟨⟨service, owner⟩, member, same⟩
    cases same
    exact ⟨rfl, SortedMap.mem_entries_iff.mp member⟩
  · rintro ⟨rfl, owned⟩
    exact ⟨(found.service, found.provider), SortedMap.mem_entries_iff.mpr owned, rfl⟩

theorem mem_names_iff {name : String} :
    name ∈ registry.names ↔ ∃ owner, registry.owner? name = some owner := by
  rw [names, List.mem_map]
  constructor
  · rintro ⟨service, member, rfl⟩
    exact SortedMap.mem_keys_iff.mp member
  · rintro ⟨owner, owned⟩
    obtain ⟨service, rfl, _⟩ := SortedMap.get?_eq_some_iff.mp owned
    exact ⟨service, SortedMap.mem_keys_iff.mpr ⟨owner, owned⟩, rfl⟩

theorem names_nodup (registry : Registry) : registry.names.Nodup :=
  (SortedMap.keys_nodup _).map fun _ _ same => TextKey.text_injective same

theorem ranked_increasing :
    (Closest.ranked score query registry.candidates).Pairwise fun first second =>
      first.2.service.text < second.2.service.text := by
  have increasing : (registry.candidates.map Prod.snd).Pairwise fun first second =>
      first.service.text < second.service.text := by
    rw [candidates, List.map_map, List.pairwise_map]
    exact registry.services.increasing
  have ranked := increasing.sublist (Closest.ranked_sublist score query registry.candidates)
  rwa [List.pairwise_map] at ranked

/-! ## Suggestions -/

section Matcher

variable [matcher : Matcher]

/-- What the matcher answers in the search for a query, said as a function of choice and pattern. -/
def Scores (registry : Registry) (query : String) (score : Matcher.Scoring) : Prop :=
  matcher.Gives score matcher.fresh (registry.names.flatMap (Closest.trials query))

/-- The suggested service is eligible and of the greatest rank; others of this rank are larger, byte by
byte. -/
structure Suggests (registry : Registry) (score : Matcher.Scoring) (query : String)
    (suggestion : Suggestion) : Prop where
  owned : registry.lookup suggestion.service.text = .ok suggestion.provider
  eligible : Closest.Eligible query suggestion.service.text
  greatest : ∃ rank, Closest.IsRank score query suggestion.service.text rank ∧
    ∀ name owner other, registry.lookup name = .ok owner → Closest.IsRank score query name other →
      other ≤ rank ∧ (other = rank → name = suggestion.service.text ∨
        ByteOrder.bytes suggestion.service.text < ByteOrder.bytes name)

theorem exists_scores (unowned : registry.owner? query = none) :
    ∃ score, registry.Scores query score := by
  refine Matcher.exists_gives _ (Closest.nodup_flatMap_trials registry.names_nodup ?_)
  intro member
  obtain ⟨owner, owned⟩ := mem_names_iff.mp member
  rw [unowned] at owned
  exact absurd owned.symm (Option.some_ne_none owner)

theorem suggestion?_spec (scores : registry.Scores query score) :
    ∃ best, Closest.Best (Closest.ranked score query registry.candidates) best ∧
      registry.suggestion? query = best.map Prod.snd := by
  rw [Scores, ← map_fst_candidates] at scores
  exact Closest.closest?_spec scores

variable (sound : matcher.Sound)
include sound

theorem Scores.soundOn (scores : registry.Scores query score) {name : String}
    (registered : name ∈ registry.names) :
    Matcher.SoundOn (Closest.trials query name) score := by
  intro choice pattern member
  exact Matcher.Gives.soundOn sound scores choice pattern
    (List.mem_flatMap.mpr ⟨name, registered, member⟩)

theorem mem_ranked_candidates_iff (scores : registry.Scores query score) {value : Int}
    {found : Suggestion} :
    (value, found) ∈ Closest.ranked score query registry.candidates ↔
      registry.lookup found.service.text = .ok found.provider ∧
        Closest.IsRank score query found.service.text value := by
  have ranked (owned : registry.owner? found.service.text = some found.provider) :
      Closest.rankOf score query found.service.text = some value ↔
        Closest.IsRank score query found.service.text value :=
    Closest.rankOf_eq_some_iff (scores.soundOn sound (mem_names_iff.mpr ⟨found.provider, owned⟩))
  rw [Closest.mem_ranked, lookup_eq_ok_iff]
  constructor
  · rintro ⟨name, member, value⟩
    obtain ⟨rfl, owned⟩ := mem_candidates_iff.mp member
    exact ⟨owned, (ranked owned).mp value⟩
  · rintro ⟨owned, value⟩
    exact ⟨_, mem_candidates_iff.mpr ⟨rfl, owned⟩, (ranked owned).mpr value⟩

theorem eligible_iff_ranked (scores : registry.Scores query score) (asked : query ≠ "")
    {name : String} {owner : ProviderId} (known : registry.lookup name = .ok owner) :
    Closest.Eligible query name ↔ ∃ rank, Closest.IsRank score query name rank := by
  have owned := lookup_eq_ok_iff.mp known
  obtain ⟨service, rfl, _⟩ := SortedMap.get?_eq_some_iff.mp owned
  exact Closest.eligible_iff_exists_rank
    (scores.soundOn sound (mem_names_iff.mpr ⟨owner, owned⟩)) asked service.nonempty

theorem suggestion?_eq_none_iff (scores : registry.Scores query score) (asked : query ≠ "") :
    registry.suggestion? query = none ↔
      ∀ name owner, registry.lookup name = .ok owner → ¬ Closest.Eligible query name := by
  have ranked_eq_nil_iff : Closest.ranked score query registry.candidates = [] ↔
      ∀ name owner, registry.lookup name = .ok owner → ¬ Closest.Eligible query name := by
    rw [List.eq_nil_iff_forall_not_mem]
    constructor
    · intro nothing name owner known eligible
      obtain ⟨service, rfl, _⟩ := SortedMap.get?_eq_some_iff.mp (lookup_eq_ok_iff.mp known)
      obtain ⟨rank, ranked⟩ := (eligible_iff_ranked sound scores asked known).mp eligible
      exact nothing (rank, ⟨service, owner⟩)
        ((mem_ranked_candidates_iff sound scores).mpr ⟨known, ranked⟩)
    · rintro unfit ⟨rank, found⟩ member
      obtain ⟨known, ranked⟩ := (mem_ranked_candidates_iff sound scores).mp member
      exact unfit _ _ known ((eligible_iff_ranked sound scores asked known).mpr ⟨rank, ranked⟩)
  obtain ⟨best, holds, suggested⟩ := suggestion?_spec scores
  rw [← ranked_eq_nil_iff, ← holds.eq_none_iff, suggested, Option.map_eq_none_iff]

theorem suggests_of_suggestion? (scores : registry.Scores query score) (asked : query ≠ "")
    {suggestion : Suggestion} (found : registry.suggestion? query = some suggestion) :
    registry.Suggests score query suggestion := by
  obtain ⟨best, holds, suggested⟩ := suggestion?_spec scores
  rw [suggested] at found
  obtain ⟨⟨rank, _⟩, rfl, rfl⟩ := Option.map_eq_some_iff.mp found
  obtain ⟨known, ranked⟩ := (mem_ranked_candidates_iff sound scores).mp holds.mem
  refine ⟨known, (eligible_iff_ranked sound scores asked known).mpr ⟨rank, ranked⟩, rank, ranked, ?_⟩
  intro name owner other otherKnown otherRank
  obtain ⟨service, rfl, _⟩ := SortedMap.get?_eq_some_iff.mp (lookup_eq_ok_iff.mp otherKnown)
  have inside : (other, ⟨service, owner⟩) ∈ Closest.ranked score query registry.candidates :=
    (mem_ranked_candidates_iff sound scores).mpr ⟨otherKnown, otherRank⟩
  rcases holds.cases_of_mem ranked_increasing inside with smaller | itself | ⟨notGreater, behind⟩
  · exact ⟨Int.le_of_lt smaller, fun same => absurd same (Int.ne_of_lt smaller)⟩
  · cases itself
    exact ⟨Int.le_refl rank, fun _ => .inl rfl⟩
  · exact ⟨notGreater, fun _ => .inr (ByteOrder.bytes_lt_of_lt behind)⟩

omit sound

/-! ## Registrations in another order -/

/-- Look-ups hang on who asked for which name, and not on the order in which they did. -/
theorem lookup_eq_of_claims {first second : Registry} {early late : List Registration}
    (one : (enrol early).outcome = .ok first) (two : (enrol late).outcome = .ok second)
    (claims : ∀ id service, service ∈ namesUnder early id ↔ service ∈ namesUnder late id)
    (query : String) : first.lookup query = second.lookup query := by
  have same : first.services = second.services := by
    refine SortedMap.ext_get? ?_
    intro service
    refine Option.ext ?_
    intro owner
    have left := (reflects_of_enrol one).2.owner owner service
    have right := (reflects_of_enrol two).2.owner owner service
    exact (left.trans (claims owner.text service)).trans right.symm
  simp only [lookup, owner?, suggestion?, same]

end Matcher

end Registry

/-- A query that is not registered is answered with the suggestion that the registered names and the
scores determine: none if no name is eligible, else the eligible name of the greatest rank with its owner,
and of several such names the smallest.  It is not the query itself, it is there whenever a registered
name differs from the query in the case of letters only, and the order of the registrations plays no part.
A matcher without a memory gives its own scores; one with a memory gives, in one search, the scores of some
function too. -/
theorem suggestion_exact [matcher : Matcher] (sound : matcher.Sound) (registry : Registry)
    (query : String) (asked : query ≠ "")
    (unregistered : ∀ owner, registry.lookup query ≠ .ok owner) :
    (∃ suggestion, registry.lookup query = .error (.unknownService query suggestion) ∧
      (suggestion = none ↔
        ∀ name owner, registry.lookup name = .ok owner → ¬ Closest.Eligible query name) ∧
      (∀ found, suggestion = some found → found.service.text ≠ query ∧
        ∀ score, registry.Scores query score → registry.Suggests score query found) ∧
      ∀ name owner, registry.lookup name = .ok owner →
        name.toList.map Char.toLower = query.toList.map Char.toLower → suggestion ≠ none) ∧
    (∃ score, registry.Scores query score) ∧
    (∀ score,
      (∀ state choice pattern, (matcher.score state choice pattern).1 = score choice pattern) →
        registry.Scores query score) ∧
    (∀ score, registry.Scores query score → ∀ name owner, registry.lookup name = .ok owner →
      (Closest.Eligible query name ↔ ∃ rank, Closest.IsRank score query name rank)) ∧
    ∀ early late other, (Registry.enrol early).outcome = .ok registry →
      (Registry.enrol late).outcome = .ok other →
      (∀ id service, service ∈ namesUnder early id ↔ service ∈ namesUnder late id) →
        other.lookup query = registry.lookup query := by
  have unowned : registry.owner? query = none := by
    refine Option.eq_none_iff_forall_ne_some.mpr ?_
    intro owner owned
    exact unregistered owner (Registry.lookup_eq_ok_iff.mpr owned)
  obtain ⟨score, scores⟩ := registry.exists_scores unowned
  have noneIff := Registry.suggestion?_eq_none_iff sound scores asked
  refine ⟨⟨registry.suggestion? query, ?_, noneIff, ?_, ?_⟩, ⟨score, scores⟩, ?_, ?_, ?_⟩
  · rw [Registry.lookup, if_neg asked, unowned]
  · intro found suggested
    have suggests {score} (scores : registry.Scores query score) :=
      Registry.suggests_of_suggestion? sound scores asked suggested
    refine ⟨?_, fun score => suggests⟩
    rintro rfl
    exact unregistered _ (suggests scores).owned
  · intro name owner known alike nothing
    exact noneIff.mp nothing name owner known (Closest.eligible_of_caseless alike.symm)
  · intro score stateless
    exact Matcher.gives_of_stateless stateless _
  · intro score scores name owner known
    exact Registry.eligible_iff_ranked sound scores asked known
  · intro early late other one two claims
    exact (Registry.lookup_eq_of_claims one two claims query).symm

/-- Services with names that resemble one another. -/
def Registration.caches : List Registration :=
  [⟨"core", ["fs", "moka"], "install core"⟩, ⟨"advanced", ["mini-moka"], "install advanced"⟩]

theorem suggestion_of_caches :
    ∃ registry, (Registry.enrol Registration.caches).outcome = .ok registry ∧
      ∃ found, registry.lookup "Moka" = .error (.unknownService "Moka" (some found)) ∧
        ∃ score, registry.Scores "Moka" score ∧ registry.Suggests score "Moka" found := by
  have acceptable : Acceptable Registration.caches := by decide
  obtain ⟨registry, enrolled, reflects⟩ := Registry.enrol_of_acceptable acceptable
  have unregistered (owner : ProviderId) : registry.lookup "Moka" ≠ .ok owner := by
    have absent : ∀ registration ∈ Registration.caches, "Moka" ∉ registration.services := by decide
    intro known
    obtain ⟨registration, member, _, asked⟩ :=
      mem_namesUnder.mp ((reflects.owner owner "Moka").mp (Registry.lookup_eq_ok_iff.mp known))
    exact absent registration member asked
  have known : registry.lookup "moka" = .ok ⟨"core", by decide⟩ :=
    Registry.lookup_eq_ok_iff.mpr ((reflects.owner _ "moka").mpr (by decide))
  obtain ⟨⟨suggestion, answered, _, suggests, caseless⟩, ⟨score, scores⟩, _⟩ :=
    suggestion_exact Likeness.matcher_sound registry "Moka" (by decide) unregistered
  obtain ⟨found, rfl⟩ := Option.ne_none_iff_exists'.mp (caseless "moka" _ known (by decide))
  exact ⟨registry, enrolled, found, answered, score, scores, (suggests found rfl).2 score scores⟩

end ServiceRouting
