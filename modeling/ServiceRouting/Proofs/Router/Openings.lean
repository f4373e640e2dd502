import ServiceRouting.Proofs.Router.Building
import ServiceRouting.Proofs.Router.Runs
import ServiceRouting.Text.Likeness

/-!
# What the source is asked for in a session

A built router starts with the opening of its primary.  From then on a request opens at most the id
that it wants, and that only if nothing wanted it before, so the openings tell which ids were wanted
and in which order (`openings_in_order`).  No other id has been touched.
-/

set_option autoImplicit false

namespace ServiceRouting

/-- After any run, a built router's source has been asked for the primary and then, each once, for
the other ids that requests wanted, in the order of the first such requests.  An id that it has not
been asked for is untouched. -/
theorem openings_in_order [Matcher] (plan : RouterPlan) (router : Router)
    (built : plan.build.outcome = .ok router) (requests : List Request) :
    let table := (router.routing.after (router.start plan.build.table) requests).table
    (∃ primary : ProviderId, plan.primary? = some primary.text ∧
      table.opened = primary ::
        ((requests.filterMap router.routing.wanted?).filter fun id => id ≠ primary).eraseDups) ∧
    ∀ id, id ∉ table.opened → table.status id = .notAttempted ∧ table.attempts id = 0 := by
  intro table
  obtain ⟨primary, yields⟩ := RouterPlan.exists_yields built
  have settled : table.Settled := router.routing.settled_after yields.kept yields.settled requests
  refine ⟨⟨primary, yields.named, ?_⟩, ?_⟩
  · have opened : table.opened =
        (plan.build.table.opened ++ requests.filterMap router.routing.wanted?).eraseDups :=
      router.routing.opened_after yields.kept yields.settled requests
    rw [opened, yields.opened, List.singleton_append, List.eraseDups_cons]
    congr 2
    refine List.filter_congr ?_
    intro id _
    by_cases same : id = primary <;> simp [same]
  · intro id absent
    have fresh : table.answer? id = none :=
      not_not.mp ((settled.mem_opened_iff id).not.mp absent)
    exact (settled.of_fresh fresh).symm

/-- One provider with a module, one whose module fails to load and one whose module panics. -/
def RouterPlan.troubled : RouterPlan :=
  .ofSteps
    [.provider ⟨"core", ["fs", "memory"], "install core"⟩,
      .provider ⟨"database", ["redis"], "install database"⟩,
      .provider ⟨"cloud", ["dropbox"], "install cloud"⟩,
      .source (((StaticSource.empty.addModule "core"
        BundledProvider.core.tableProvider.asModule).add "database"
        (.answered (.error (.initialization "no server")))).add "cloud"
        (.panicked (.text "no network"))).source]

def ProviderId.ghost : ProviderId := ⟨"ghost", by decide⟩

/-- Requests of all kinds, some for the same provider, some for nobody's service. -/
def troubledRequests : List Request :=
  [.lookup "dropbox", .create .blocking "redis" ∅, .create .awaited "nothing" ∅,
    .create .blocking "" ∅, .load .ghost, .create .awaited "dropbox" ∅,
    .create .awaited "redis" ∅, .bind BundledProvider.core.id,
    .status BundledProvider.advanced.id]

theorem openings_of_troubled :
    ∃ router, RouterPlan.troubled.build.outcome = .ok router ∧
      (router.routing.after (router.start RouterPlan.troubled.build.table)
        troubledRequests).table.opened =
        [BundledProvider.core.id, BundledProvider.database.id, .ghost,
          BundledProvider.cloud.id] := by
  refine ⟨_, rfl, ?_⟩
  obtain ⟨⟨primary, named, opened⟩, _⟩ :=
    openings_in_order RouterPlan.troubled _ rfl troubledRequests
  obtain rfl : BundledProvider.core.id = primary :=
    ProviderId.text_injective (Option.some.inj named)
  exact opened

end ServiceRouting
