import ServiceRouting.Proofs.Router.FromSettings
import ServiceRouting.Proofs.Router.History
import ServiceRouting.Proofs.Table.Configuration

/-!
# Opening bundled services

A router made from settings owns what the manifests list, and loads the providers whose tables list the
same.  So a create never comes to a provider that does not know the service: in every state of a session
the settings, the tables and the options decide the answer (`bundled_create_answers`).
-/

set_option autoImplicit false

namespace ServiceRouting

/-! ## Routers made from settings -/

/-- The registry, the source and the hints are those of the bundled providers under the settings. -/
structure RouterConfig.Governs (config : RouterConfig) (routing : Routing) : Prop where
  owner : ∀ service id, routing.registry.owner? service = some id ↔
    ∃ provider : BundledProvider, provider.id = id ∧ ∃ spec ∈ provider.specs, spec.name = service
  source : routing.loader.source = (RouterPlan.enabledSource config).source
  hint : ∀ id, routing.loader.installHint id = config.hintFor id

namespace RouterConfig

variable {config : RouterConfig} {router : Router}

theorem governs_of_built (built : (Router.ofConfig config).outcome = .ok router) :
    config.Governs router.routing := by
  obtain ⟨primary, yields⟩ := RouterPlan.exists_yields built
  obtain ⟨registry, enrolled, reflects⟩ := config.exists_reflecting
  have same : registry = router.routing.registry := by
    have taken := yields.enrolled
    rw [RouterPlan.ofConfig, RouterPlan.ofSteps_hinted] at taken
    exact Except.ok.inj (enrolled.symm.trans taken)
  rw [same] at reflects
  refine ⟨?_, ?_, ?_⟩
  · intro service id
    rw [reflects.owner, PlanStep.namesUnder_hintedRegistrations, registrations_steps,
      mem_namesUnder_bundled]
    simp only [ProviderId.text_injective.eq_iff]
  · rw [yields.loader, RouterPlan.ofConfig, RouterPlan.ofSteps_sourceOrNone]
    exact config.sourceOf_steps
  · intro id
    rw [yields.loader]
    exact installHint_of_reflecting reflects _ id

theorem hintFor_bundled (config : RouterConfig) (provider : BundledProvider) :
    config.hintFor provider.id = (config.hint? provider.id.text).getD provider.installHint := by
  rw [hintFor, BundledProvider.ofId?_eq_some_iff.mpr rfl]

theorem exists_router (config : RouterConfig)
    (named : config.primary = BundledProvider.core.id.text)
    (enabled : ¬ config.Disables BundledProvider.core.id.text) :
    ∃ router, (Router.ofConfig config).outcome = .ok router := by
  have built := config.build_spec
  rwa [config.failure?_eq_none_iff.mpr ⟨named, enabled⟩] at built

/-! ## What is loaded -/

theorem Governs.fixed {routing : Routing} (governs : config.Governs routing) :
    routing.loader.source.Fixed := by
  intro earlier id
  rw [governs.source]
  rfl

/-- Whatever was requested before, the slots hold what first loads come to. -/
theorem faithful_after [Matcher] (built : (Router.ofConfig config).outcome = .ok router)
    (requests : List Request) :
    (router.routing.after (router.start (Router.ofConfig config).table) requests).table.Faithful
      router.routing.loader := by
  obtain ⟨primary, yields⟩ := RouterPlan.exists_yields built
  have fixed := (governs_of_built built).fixed
  exact router.routing.faithful_after fixed yields.kept (yields.faithful fixed) requests

section Verdicts

variable {routing : Routing} {provider : BundledProvider}

theorem Governs.verdict_of_disabled (governs : config.Governs routing)
    (off : config.Disables provider.id.text) :
    routing.loader.verdict [] provider.id =
      .error ⟨provider.id, (config.hint? provider.id.text).getD provider.installHint,
        .notInstalled⟩ := by
  have absent := BuiltinSource.open?_eq_none_iff.mpr (.inl (config.disabled_enabledSource_iff.mpr off))
  rw [BuiltinSource.verdict governs.source, absent, governs.hint, hintFor_bundled]

theorem Governs.verdict_of_enabled (governs : config.Governs routing)
    (enabled : ¬ config.Disables provider.id.text) :
    routing.loader.verdict [] provider.id = .ok ⟨0, provider.tableProvider.asModule⟩ := by
  have opened := BuiltinSource.open?_eq_some_iff.mpr
    ⟨rfl, mt config.disabled_enabledSource_iff.mp enabled⟩
  rw [BuiltinSource.verdict governs.source, opened]
  rfl

end Verdicts

end RouterConfig

/-! ## Creates in a session -/

namespace Routing

/-- Over a fixed source a create is answered as if the owner were loaded first of all. -/
theorem create_of_faithful [Matcher] {routing : Routing} {table : LoadTable} {owner : ProviderId}
    (fixed : routing.loader.source.Fixed) (faithful : table.Faithful routing.loader)
    (style : CallStyle) {service : String} (options : Options)
    (known : routing.registry.lookup service = .ok owner) :
    (routing.create style service options table).1 =
      handleOf style service options (routing.loader.verdict [] owner) := by
  rw [(routing.create_of_owner style service options table known).1]
  exact handleOf_congr style service options (faithful.load fixed owner).1

end Routing

/-- What opening a service on the bundled providers comes to.  The cases exclude one another, as no
service is offered twice. -/
inductive BundledAnswer (config : RouterConfig) (service : String) (options : Options) :
    Answer → Prop where
  | unnamed :
    service = "" → BundledAnswer config service options (.failed (.invalidName .emptyService))
  | unknown (suggestion : Option Suggestion) :
    service ≠ "" →
    (∀ provider : BundledProvider, ∀ spec ∈ provider.specs, spec.name ≠ service) →
    BundledAnswer config service options (.failed (.unknownService service suggestion))
  /-- The settings turn the owner off; the options are not looked at. -/
  | disabled {provider : BundledProvider} {spec : ServiceSpec} :
    spec ∈ provider.specs → spec.name = service → config.Disables provider.id.text →
    BundledAnswer config service options (.failed (.providerUnavailable
      ⟨provider.id, (config.hint? provider.id.text).getD provider.installHint, .notInstalled⟩))
  /-- The first required key without a value is told. -/
  | incomplete {provider : BundledProvider} {spec : ServiceSpec} {key : String} :
    spec ∈ provider.specs → spec.name = service → ¬ config.Disables provider.id.text →
    TableProvider.missing? spec options = some key →
    BundledAnswer config service options (.failed (.refused
      ⟨.configInvalid, s!"option '{key}' is required", [("service", service)]⟩))
  | opened {provider : BundledProvider} {spec : ServiceSpec} {handle : Handle} :
    spec ∈ provider.specs → spec.name = service → ¬ config.Disables provider.id.text →
    TableProvider.missing? spec options = none →
    handle.service.text = service → handle.provider = provider.id →
    handle.capability = spec.capability →
    BundledAnswer config service options (.handle handle)

namespace RouterConfig.Governs

variable {config : RouterConfig} {routing : Routing} {table : LoadTable}

theorem create_answer [Matcher] (governs : config.Governs routing)
    (faithful : table.Faithful routing.loader) (style : CallStyle) (service : String)
    (options : Options) :
    BundledAnswer config service options
      (Routing.answerHandle (routing.create style service options table).1) := by
  by_cases unnamed : service = ""
  · have failed : routing.registry.lookup service = .error (.invalidName .emptyService) := by
      rw [Registry.lookup, if_pos unnamed]
    rw [Routing.create_of_unknown routing style service options table failed]
    exact .unnamed unnamed
  · cases owned : routing.registry.owner? service with
    | none =>
      have failed : routing.registry.lookup service =
          .error (.unknownService service (routing.registry.suggestion? service)) := by
        rw [Registry.lookup, if_neg unnamed, owned]
      rw [Routing.create_of_unknown routing style service options table failed]
      refine .unknown _ unnamed ?_
      intro provider spec offered same
      have owner := (governs.owner service provider.id).mpr ⟨provider, rfl, spec, offered, same⟩
      rw [owned] at owner
      cases owner
    | some owner =>
      obtain ⟨provider, rfl, spec, offered, same⟩ := (governs.owner service owner).mp owned
      have known := Registry.lookup_eq_ok_iff.mpr owned
      rw [Routing.create_of_faithful governs.fixed faithful style options known]
      by_cases off : config.Disables provider.id.text
      · rw [governs.verdict_of_disabled off]
        exact .disabled offered same off
      · let name : ServiceName := ⟨service, unnamed⟩
        have named : ServiceName.ofText service = .ok name := ServiceName.ofText_eq_ok_iff.mpr rfl
        have found : provider.tableProvider.spec? name.text = some spec :=
          BundledProvider.spec?_eq_some_iff.mpr ⟨offered, same⟩
        rw [governs.verdict_of_enabled off, Routing.handleOf_table named,
          TableProvider.configure_of_spec found]
        cases missing : TableProvider.missing? spec options with
        | some key => exact .incomplete offered same off missing
        | none =>
          dsimp only [Except.mapError, Routing.answerHandle]
          rw [TableProvider.assemble_eq]
          exact .opened offered same off missing rfl rfl rfl

/-- Whatever is asked for, a load brings the module of a bundled provider, or none is installed. -/
theorem load_cases (governs : config.Governs routing) (faithful : table.Faithful routing.loader)
    (id : ProviderId) :
    (∃ hint, (routing.loader.load id table).1 = .error ⟨id, hint, .notInstalled⟩) ∨
      ∃ (provider : BundledProvider) (serial : Nat),
        (routing.loader.load id table).1 = .ok ⟨serial, provider.tableProvider.asModule⟩ := by
  have same := (faithful.load governs.fixed id).1
  rw [Loader.outcome, BuiltinSource.verdict governs.source] at same
  cases opened : (RouterPlan.enabledSource config).open? id.text with
  | none =>
    rw [opened] at same
    obtain ⟨failure, brought, given⟩ | ⟨_, _, _, _, given⟩ := LoadedModule.map_content_eq same
    · cases given
      exact .inl ⟨_, brought⟩
    · cases given
  | some provider =>
    rw [opened] at same
    obtain ⟨_, _, given⟩ | ⟨serial, _, _, brought, given⟩ := LoadedModule.map_content_eq same
    · cases given
    · cases given
      exact .inr ⟨provider, serial, brought⟩

end RouterConfig.Governs

theorem BundledAnswer.failure_forms {config : RouterConfig} {service : String} {options : Options}
    {failure : RoutingError} (answered : BundledAnswer config service options (.failed failure)) :
    (∀ error, failure = .refused error → error.kind = .configInvalid) ∧
      ∀ unavailable, failure = .providerUnavailable unavailable →
        unavailable.reason = .notInstalled := by
  cases answered with
  | unnamed _ => simp
  | unknown _ _ _ => simp
  | disabled _ _ _ => simp
  | incomplete _ _ _ _ => simp

/-- At any point of a session on the bundled providers a create is answered as the settings, the tables
and the options say, for callers that wait and for callers that await.  A provider refuses only
options that are not complete, and a provider that cannot be loaded is one that is not installed: the
modules have the ids, the version and the services that the manifests promise. -/
theorem bundled_create_answers [Matcher] (config : RouterConfig) (router : Router)
    (built : (Router.ofConfig config).outcome = .ok router) (requests : List Request) :
    let routing := router.routing
    let state := routing.after (router.start (Router.ofConfig config).table) requests
    (∀ style service options, BundledAnswer config service options
      (routing.answer state (.create style service options)).1) ∧
    (∀ style service options failure,
      (routing.answer state (.create style service options)).1 = .failed failure →
        (∀ error, failure = .refused error → error.kind = .configInvalid) ∧
          ∀ unavailable, failure = .providerUnavailable unavailable →
            unavailable.reason = .notInstalled) ∧
    (∀ id failure, (routing.loader.load id state.table).1 = .error failure →
      failure.reason = .notInstalled) ∧
    ∀ first second : BundledProvider, ∀ spec ∈ first.specs, ∀ other ∈ second.specs,
      spec.name = other.name → first = second ∧ spec = other := by
  intro routing state
  have governs := RouterConfig.governs_of_built built
  have faithful : state.table.Faithful routing.loader := RouterConfig.faithful_after built requests
  have answered : ∀ style service options, BundledAnswer config service options
      (routing.answer state (.create style service options)).1 := by
    intro style service options
    exact governs.create_answer faithful style service options
  refine ⟨answered, ?_, ?_, ?_⟩
  · intro style service options failure failed
    have given := answered style service options
    rw [failed] at given
    exact given.failure_forms
  · intro id failure failed
    obtain ⟨hint, absent⟩ | ⟨provider, serial, brought⟩ := governs.load_cases faithful id
    · rw [failed] at absent
      cases absent
      rfl
    · rw [failed] at brought
      cases brought
  · intro first second spec offered other offeredToo same
    exact BundledProvider.offered_once offered offeredToo same

/-- Settings that turn the databases off and say whom to ask for them. -/
def RouterConfig.withoutDatabases : RouterConfig where
  providers := .ofList [("database", { enabled := false, installHint := some "ask for it" })]

/-- After some requests, with or without options, a database is not installed. -/
theorem create_answers_without_databases :
    ∃ router, (Router.ofConfig .withoutDatabases).outcome = .ok router ∧
      ∀ style options, (router.routing.answer (router.routing.after
          (router.start (Router.ofConfig .withoutDatabases).table) troubledRequests)
          (.create style "redis" options)).1 =
        .failed (.providerUnavailable
          ⟨BundledProvider.database.id, "ask for it", .notInstalled⟩) := by
  have off : RouterConfig.withoutDatabases.Disables BundledProvider.database.id.text :=
    ⟨{ enabled := false, installHint := some "ask for it" }, rfl, rfl⟩
  have enabled : ¬ RouterConfig.withoutDatabases.Disables BundledProvider.core.id.text := by
    rintro ⟨settings, found, _⟩
    cases found
  obtain ⟨router, built⟩ := RouterConfig.exists_router .withoutDatabases rfl enabled
  refine ⟨router, built, ?_⟩
  intro style options
  let redis : ServiceSpec :=
    { name := "redis", capability := .keyValue, required := ["endpoint"], secrets := ["password"] }
  have listed : redis ∈ BundledProvider.database.specs := by decide
  have answered :=
    (bundled_create_answers .withoutDatabases router built troubledRequests).1 style "redis" options
  generalize (router.routing.answer _ _).1 = answer at answered ⊢
  cases answered with
  | unnamed empty => exact absurd empty (by decide)
  | unknown suggestion _ nowhere => exact absurd rfl (nowhere _ _ listed)
  | disabled offered same _ =>
    obtain ⟨rfl, _⟩ := BundledProvider.offered_once offered listed same
    rfl
  | incomplete offered same on _ =>
    obtain ⟨rfl, _⟩ := BundledProvider.offered_once offered listed same
    exact absurd off on
  | opened offered same on _ _ _ _ =>
    obtain ⟨rfl, _⟩ := BundledProvider.offered_once offered listed same
    exact absurd off on

end ServiceRouting
