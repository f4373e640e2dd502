import ServiceRouting.Proofs.Loader.Examination
import ServiceRouting.Proofs.Router.Openings

/-!
# The shared symbols stay the primary's own

A built router holds the very table that its primary's module publishes.  The slot of the primary keeps
that module for good, also where the source would bring another one if it were asked again, so whatever
a session loads or binds, a load of the primary leads to the same table (`shared_symbols_stay`).

Which module a table comes from is told by the module's serial number.  It is the place of the module's
opening, so no two ids share one (`LoadTable.Stamped`).
-/

set_option autoImplicit false

namespace ServiceRouting

/-! ## Serial numbers -/

/-- The serial number of a loaded module is the place of its opening. -/
def LoadTable.Stamped (table : LoadTable) : Prop :=
  ∀ id live, table.answer? id = some (.ok live) → table.opened[live.serial]? = some id

namespace LoadTable

variable {table other : LoadTable}

theorem stamped_empty : empty.Stamped := by
  rintro id live ⟨⟩

theorem Stamped.of_alike (stamped : other.Stamped) (alike : table.Alike other) :
    table.Stamped := by
  intro id live kept
  rw [alike.answer? trivial] at kept
  rw [alike.opened]
  exact stamped id live kept

theorem Stamped.serial_injective (stamped : table.Stamped) {one two : ProviderId}
    {first second : LoadedModule} (keptOne : table.answer? one = some (.ok first))
    (keptTwo : table.answer? two = some (.ok second)) (same : first.serial = second.serial) :
    one = two := by
  have placed := stamped one first keptOne
  rw [same, stamped two second keptTwo] at placed
  exact (Option.some.inj placed).symm

end LoadTable

theorem Loader.load_stamped (loader : Loader) (id : ProviderId) {table : LoadTable}
    (stamped : table.Stamped) : (loader.load id table).2.Stamped := by
  rcases loader.load_cases id table with ⟨answer, _, same⟩ | ⟨answered, fills⟩
  · rw [same]
    exact stamped
  · intro other live kept
    rw [fills.opened]
    by_cases here : other = id
    · subst here
      rw [fills.answer?_self, answered] at kept
      rw [(verdict_eq_ok_iff.mp (Option.some.inj kept)).2]
      exact List.getElem?_concat_length
    · rw [LoadTable.answer?, fills.others other here] at kept
      have placed := stamped other live kept
      have early : live.serial < table.opened.length := (List.getElem?_eq_some_iff.mp placed).1
      rw [List.getElem?_append_left early]
      exact placed

theorem Loader.keeps_stamped (loader : Loader) : loader.Keeps LoadTable.Stamped where
  alike same stamped := stamped.of_alike same
  load id _ stamped := loader.load_stamped id stamped

/-! ## A namespace and its provider's module -/

/-- The provider of the namespace has been loaded once, and the namespace holds the table that its
module, and no other, publishes. -/
structure Routing.Shares (routing : Routing) (live : LoadedModule) (space : Namespace)
    (table : LoadTable) : Prop where
  status : table.status space.provider = .loaded
  attempts : table.attempts space.provider = 1
  load : routing.loader.load space.provider table = (.ok live, table)
  exports : live.exports? = some space.exports
  symbol : ∀ name, live.content.exports.bind (fun symbols => symbols.symbol? name) =
    space.symbol? name
  bind : (Namespace.bind routing.loader space.provider table).1 = .ok space
  identical : ∀ name, routing.askNamespace space table (.identical name) =
    (.identical true ((space.symbol? name).map fun _ => true), table)
  alone : ∀ id other, (routing.loader.load id table).1 = .ok other →
    other.serial = live.serial → id = space.provider

theorem SymbolTable.sameSymbol?_self (table : SymbolTable) (name : String) :
    table.sameSymbol? table name = (table.symbol? name).map fun _ => true := by
  rw [sameSymbol?]
  cases table.symbol? name <;> simp

namespace Routing

variable {routing : Routing} {live : LoadedModule} {space : Namespace}

theorem shares_of_kept {table : LoadTable} (settled : table.Settled) (stamped : table.Stamped)
    (kept : table.answer? space.provider = some (.ok live))
    (exports : live.exports? = some space.exports) : routing.Shares live space table := by
  have loaded : routing.loader.load space.provider table = (.ok live, table) :=
    routing.loader.load_of_answer kept
  refine {
    status := LoadTable.status_of_answer kept
    attempts := settled.attempts_of_answer (by simp [kept])
    load := loaded
    exports := exports
    symbol := ?_
    bind := ?_
    identical := ?_
    alone := ?_ }
  · intro name
    rw [(LoadedModule.exports?_eq_some_iff.mp exports).1]
    rfl
  · rw [(Namespace.bind_spec routing.loader space.provider table).1, loaded]
    exact Namespace.ofLoad_eq_ok_iff.mpr ⟨rfl, live, rfl, exports⟩
  · intro name
    simp [askNamespace, Routing.identical, loaded, exports, SymbolTable.sameSymbol?_self,
      Namespace.symbol?]
  · intro id other brought same
    -- The table that this load leaves holds both modules, each under its own place.
    have keptToo := routing.loader.answer?_load id table
    rw [brought] at keptToo
    have still := (routing.loader.load_grows id table).answer? kept
    exact (routing.loader.load_stamped id stamped).serial_injective keptToo still same

end Routing

/-- What a namespace answers about itself does not hang on the table. -/
theorem Routing.Shares.askNamespace_eq {routing : Routing} {live : LoadedModule} {space : Namespace}
    {table other : LoadTable} (shares : routing.Shares live space table)
    (before : routing.Shares live space other) (request : NamespaceRequest) :
    routing.askNamespace space table request =
      ((routing.askNamespace space other request).1, table) := by
  cases request with
  | identical name => rw [shares.identical, before.identical]
  | _ => rfl

/-! ## Runs -/

def SessionState.BindsOnly (state : SessionState) (space : Namespace) : Prop :=
  ∀ other, state.bound = some other → other.provider = space.provider → other = space

namespace Routing

variable {routing : Routing} {live : LoadedModule} {space : Namespace} {state : SessionState}

theorem table_answer_bind [Matcher] (routing : Routing) (state : SessionState) (id : ProviderId) :
    (routing.answer state (.bind id)).2.table = (Namespace.bind routing.loader id state.table).2 := by
  rw [answer]
  rcases Namespace.bind routing.loader id state.table with ⟨failure | space, table⟩ <;> rfl

theorem bindsOnly_answer [Matcher] (kept : state.table.answer? space.provider = some (.ok live))
    (exports : live.exports? = some space.exports) (only : state.BindsOnly space)
    (request : Request) : (routing.answer state request).2.BindsOnly space := by
  intro other bound same
  rw [bound_answer] at bound
  cases request with
  | bind id =>
    rw [boundAfter] at bound
    cases found : Namespace.ofLoad id (routing.loader.load id state.table).1 with
    | error failure =>
      rw [found] at bound
      exact only other bound same
    | ok given =>
      rw [found] at bound
      cases bound
      obtain rfl : space.provider = id := same.symm.trans (Namespace.ofLoad_provider found)
      have again : Namespace.ofLoad space.provider (.ok live) = .ok space :=
        Namespace.ofLoad_eq_ok_iff.mpr ⟨rfl, live, rfl, exports⟩
      rw [routing.loader.load_of_answer kept, again] at found
      exact (Except.ok.inj found).symm
  | _ => exact only other bound same

theorem bindsOnly_after [Matcher] (started : state.Kept)
    (kept : state.table.answer? space.provider = some (.ok live))
    (exports : live.exports? = some space.exports) (only : state.BindsOnly space)
    (requests : List Request) : (routing.after state requests).BindsOnly space := by
  induction requests generalizing state with
  | nil => exact only
  | cons request rest ih =>
    have grows := (routing.loader.keeps_grows state.table).answer started (.refl _) request
    exact ih (routing.kept_answer started request) (grows.answer? kept)
      (bindsOnly_answer kept exports only request)

theorem shares_after [Matcher] (started : state.Kept) (settled : state.table.Settled)
    (stamped : state.table.Stamped)
    (kept : state.table.answer? space.provider = some (.ok live))
    (exports : live.exports? = some space.exports) (requests : List Request) :
    routing.Shares live space (routing.after state requests).table :=
  shares_of_kept (routing.settled_after started settled requests)
    (routing.holds_after routing.loader.keeps_stamped started stamped requests)
    ((routing.grows_after started requests).answer? kept) exports

end Routing

/-! ## Built routers -/

namespace RouterPlan

variable {plan : RouterPlan} {primary : ProviderId} {router : Router}

theorem Yields.provider (yields : plan.Yields primary router) : router.shared.provider = primary :=
  Namespace.ofLoad_provider yields.shared

theorem Yields.stamped (yields : plan.Yields primary router) : plan.build.table.Stamped :=
  yields.holds router.routing.loader.keeps_stamped LoadTable.stamped_empty

theorem Yields.exists_live (yields : plan.Yields primary router) :
    ∃ live, plan.build.table.answer? router.shared.provider = some (.ok live) ∧
      live.exports? = some router.shared.exports ∧
      plan.sourceOrNone.answer [] primary = .answered (.ok live.content) := by
  obtain ⟨_, live, brought, exports⟩ := Namespace.ofLoad_eq_ok_iff.mp yields.shared
  refine ⟨live, ?_, exports, ?_⟩
  · rw [yields.provider, yields.table.answer? trivial, Loader.answer?_load, brought]
  · rw [Loader.load_empty] at brought
    rw [← yields.source]
    exact (Loader.verdict_eq_ok brought).1

end RouterPlan

/-- After any run, a router whose primary is a table provider still shares the one table that the
primary's module publishes: the module was opened once, loads and binds of the primary lead to its very
table, and every name leads to the very symbol or to none on both sides.  A bind of any id, whether it
succeeds or not, leaves it so, and what the router's own namespace answers never changes. -/
theorem shared_symbols_stay [Matcher] (plan : RouterPlan) (router : Router) (primary : ProviderId)
    (provider : TableProvider) (built : plan.build.outcome = .ok router)
    (named : plan.primary? = some primary.text)
    (given : plan.sourceOrNone.answer [] primary = .answered (.ok provider.asModule)) :
    let routing := router.routing
    let start := router.start plan.build.table
    router.shared.provider = primary ∧
    provider.exports = some router.shared.exports.table ∧
    ∃ live : LoadedModule, live.content = provider.asModule ∧
      ∀ requests,
        let state := routing.after start requests
        routing.Shares live router.shared state.table ∧
        state.BindsOnly router.shared ∧
        (∀ request, routing.askNamespace router.shared state.table request =
          ((routing.askNamespace router.shared start.table request).1, state.table)) ∧
        ∀ id,
          let later := (Namespace.bind routing.loader id state.table).2
          routing.Shares live router.shared later ∧
          ∀ request, routing.askNamespace router.shared later request =
            ((routing.askNamespace router.shared start.table request).1, later) := by
  intro routing start
  obtain ⟨other, yields⟩ := RouterPlan.exists_yields built
  obtain rfl : other = primary :=
    ProviderId.text_injective (Option.some.inj (yields.named.symm.trans named))
  obtain ⟨live, kept, exports, first⟩ := yields.exists_live
  have content : live.content = provider.asModule :=
    Except.ok.inj (Reply.answered.inj (first.symm.trans given))
  have shares (requests : List Request) :
      routing.Shares live router.shared (routing.after start requests).table :=
    Routing.shares_after yields.kept yields.settled yields.stamped kept exports requests
  refine ⟨yields.provider, ?_, live, content, ?_⟩
  · have published := (LoadedModule.exports?_eq_some_iff.mp exports).1
    rw [content] at published
    exact published
  intro requests state
  refine ⟨shares requests, ?_, (shares requests).askNamespace_eq (shares []), ?_⟩
  · refine Routing.bindsOnly_after yields.kept kept exports ?_ requests
    rintro space ⟨⟩ _
    rfl
  · intro id later
    -- A bind is one more request of the session.
    have next := shares (requests ++ [.bind id])
    rw [routing.after_concat, routing.table_answer_bind] at next
    exact ⟨next, next.askNamespace_eq (shares [])⟩

/-- A source whose modules publish how many openings came before theirs, so that no two openings give
the same table. -/
def Source.counting : Source where
  answer earlier id :=
    let count := UInt32.ofNat earlier.length
    let symbols := SymbolTable.ofList [(SharedSymbols.version, .word32 count)]
    .answered (.ok (TableProvider.mk id [{ name := "memory" }] (some symbols)).asModule)

def RouterPlan.counted : RouterPlan :=
  .ofSteps [.provider ⟨"core", ["memory"], "install core"⟩, .source .counting]

/-- After a bind of another id, which publishes another table, the primary still gives its first one. -/
theorem shared_symbols_of_counted :
    ∃ router, RouterPlan.counted.build.outcome = .ok router ∧
      let core := BundledProvider.core.id
      let start := router.start RouterPlan.counted.build.table
      let state := router.routing.after start [.load core, .bind .ghost]
      RouterPlan.counted.primary? = some core.text ∧
      (∃ other, state.bound = some other ∧ other.exports.table ≠ router.shared.exports.table) ∧
      (Namespace.bind router.routing.loader core state.table).1 = .ok router.shared := by
  refine ⟨_, rfl, rfl, ⟨_, rfl, by decide⟩, ?_⟩
  obtain ⟨_, _, live, _, always⟩ := shared_symbols_stay RouterPlan.counted _ BundledProvider.core.id
    _ rfl rfl rfl
  exact (always [.load BundledProvider.core.id, .bind .ghost]).1.bind

end ServiceRouting
