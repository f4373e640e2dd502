import ServiceRouting.Proofs.Bundled
import ServiceRouting.Proofs.Router.Building
import ServiceRouting.Proofs.Router.Hints

/-!
# Routers from settings

Settings choose the primary provider, turn bundled providers off and replace their hints; they may
also name ids that no bundled provider has.  The bundled manifests are always registered, so building
can only fail at the primary (`RouterConfig.build_spec`).  `router_of_settings` says how it comes out
for all settings.
-/

set_option autoImplicit false

namespace ServiceRouting

namespace RouterConfig

variable (config : RouterConfig)

/-! ## What the settings say of one id -/

def Disables (id : String) : Prop :=
  ∃ settings, config.providers.get? id = some settings ∧ settings.enabled = false

def hint? (id : String) : Option String :=
  (config.providers.get? id).bind ProviderSettings.installHint

/-- The steps of the plan that is made from the settings. -/
def steps : List PlanStep :=
  .bundledManifests :: config.providers.entries.flatMap RouterPlan.settingSteps ++
    [.source (RouterPlan.enabledSource config).source, .primary config.primary]

/-! ## The steps of the plan -/

section Steps

variable (entries : List (String × ProviderSettings))

theorem registrations_settingSteps :
    (entries.flatMap RouterPlan.settingSteps).flatMap PlanStep.registrations = [] := by
  induction entries with
  | nil => rfl
  | cons entry rest ih =>
    rw [List.flatMap_cons, List.flatMap_append, ih, List.append_nil, RouterPlan.settingSteps]
    cases entry.2.installHint <;> rfl

theorem hints_settingSteps (id : String) :
    (entries.flatMap RouterPlan.settingSteps).filterMap (PlanStep.hint? id) =
      entries.filterMap fun entry => if entry.1 = id then entry.2.installHint else none := by
  induction entries with
  | nil => rfl
  | cons entry rest ih =>
    rw [List.flatMap_cons, List.filterMap_append, ih, List.filterMap_cons, RouterPlan.settingSteps]
    cases given : entry.2.installHint with
    | none => simp
    | some hint => by_cases same : entry.1 = id <;> simp [PlanStep.hint?, same]

end Steps

theorem primaryOf?_steps : PlanStep.primaryOf? config.steps = some config.primary := by
  have last : (config.steps.filterMap PlanStep.primary?).getLast? = some config.primary := by
    rw [steps, List.filterMap_append, List.getLast?_append]
    rfl
  rw [PlanStep.primaryOf?, last]
  rfl

theorem sourceOf_steps :
    PlanStep.sourceOf config.steps = (RouterPlan.enabledSource config).source := by
  have last : (config.steps.filterMap PlanStep.source?).getLast? =
      some (RouterPlan.enabledSource config).source := by
    rw [steps, List.filterMap_append, List.getLast?_append]
    rfl
  rw [PlanStep.sourceOf, last]
  rfl

theorem registrations_steps :
    config.steps.flatMap PlanStep.registrations = bundledRegistrations := by
  simp [steps, registrations_settingSteps, PlanStep.registrations, bundledRegistrations]

theorem hint?_steps (id : String) :
    (config.steps.filterMap (PlanStep.hint? id)).getLast? = config.hint? id := by
  have own : config.steps.filterMap (PlanStep.hint? id) = (config.hint? id).toList := by
    have entries := config.providers.filterMap_entries id ProviderSettings.installHint
    simp only [TextKey.text, id_eq] at entries
    rw [steps, List.cons_append, List.filterMap_cons_none rfl, List.filterMap_append,
      hints_settingSteps, entries]
    exact List.append_nil _
  rw [own]
  cases config.hint? id <;> rfl

/-! ## Bundled providers that the settings leave -/

theorem contains_foldl_disable (entries : List (String × ProviderSettings))
    (source : BuiltinSource) (id : String) :
    (entries.foldl (fun source entry =>
      if entry.2.enabled then source else source.disable entry.1) source).disabled.contains id ↔
      source.disabled.contains id ∨ ∃ entry ∈ entries, entry.1 = id ∧ entry.2.enabled = false := by
  -- An entry changes the source that the rest of the entries start from.
  induction entries generalizing source with
  | nil => simp
  | cons entry rest ih =>
    rw [List.foldl_cons, ih]
    cases enabled : entry.2.enabled with
    | true => simp [enabled]
    | false =>
      by_cases same : entry.1 = id
      · simp [BuiltinSource.disable, SortedMap.contains, SortedMap.get?_insert, TextKey.text,
          enabled, same]
      · simp [BuiltinSource.disable, SortedMap.contains, SortedMap.get?_insert, TextKey.text,
          same]

theorem disabled_enabledSource_iff {id : String} :
    (RouterPlan.enabledSource config).disabled.contains id ↔ config.Disables id := by
  rw [RouterPlan.enabledSource, contains_foldl_disable]
  constructor
  · rintro (nothing | ⟨⟨named, settings⟩, member, rfl, off⟩)
    · cases nothing
    · exact ⟨settings, SortedMap.mem_entries_iff.mp member, off⟩
  · rintro ⟨settings, found, off⟩
    exact .inr ⟨(id, settings), SortedMap.mem_entries_iff.mpr found, rfl, off⟩

/-! ## Building from the settings -/

/-- The hint of a bundled provider, possibly replaced; other ids have the default one. -/
def hintFor (id : ProviderId) : String :=
  match BundledProvider.ofId? id.text with
  | some provider => (config.hint? id.text).getD provider.installHint
  | none => defaultInstallHint id.text

/-- The bundled manifests are taken in, whatever hints the settings put in place of theirs. -/
theorem exists_reflecting :
    ∃ registry, (Registry.enrol (PlanStep.hintedRegistrations config.steps)).outcome = .ok registry ∧
      registry.Reflects (PlanStep.hintedRegistrations config.steps) := by
  -- Replaced hints change neither ids nor names, so the bundled table decides.
  have acceptable : Acceptable (PlanStep.hintedRegistrations config.steps) := by
    rw [PlanStep.acceptable_hintedRegistrations_iff, registrations_steps]
    exact acceptable_bundledRegistrations
  exact Registry.enrol_of_acceptable acceptable

variable {config} in
theorem installHint_of_reflecting {registry : Registry}
    (reflects : registry.Reflects (PlanStep.hintedRegistrations config.steps)) (source : Source)
    (id : ProviderId) :
    (Loader.ofRegistry source registry).installHint id = config.hintFor id := by
  rw [reflects.installHint, PlanStep.lastHint?_hintedRegistrations, registrations_steps,
    hint?_steps, lastHint?_bundledRegistrations, hintFor]
  cases BundledProvider.ofId? id.text <;> rfl

/-- The loader tells the hints of the settings. -/
theorem exists_enrolled :
    ∃ registry, (Registry.enrol (PlanStep.hintedRegistrations config.steps)).outcome = .ok registry ∧
      ∀ id, (Loader.ofRegistry (PlanStep.sourceOf config.steps) registry).installHint id =
        config.hintFor id := by
  obtain ⟨registry, enrolled, reflects⟩ := config.exists_reflecting
  exact ⟨registry, enrolled, installHint_of_reflecting reflects _⟩

/-- Why no router comes of the settings, if none does. -/
def failure? : Option RoutingError :=
  match ProviderId.ofText? config.primary with
  | none => some (.invalidName .emptyProvider)
  | some primary =>
    match (RouterPlan.enabledSource config).open? primary.text with
    | none => some (.primaryMissing primary (config.hintFor primary) (some .notInstalled))
    | some .core => none
    | some _ => some (.primaryMissing primary (Namespace.unpublishedHint primary) none)

theorem build_spec :
    match config.failure? with
    | some failure => (Router.ofConfig config).outcome = .error failure
    | none => ∃ router, (Router.ofConfig config).outcome = .ok router := by
  have primaryOf := config.primaryOf?_steps
  have built {outcome : Except RoutingError Router} {opened : List ProviderId}
      (builds : BuildsTo config.steps outcome opened) :
      (Router.ofConfig config).outcome = outcome := builds.eq_build.1.symm
  rw [failure?]
  cases named : ProviderId.ofText? config.primary with
  | none =>
    rw [ProviderId.ofText?_eq_none_iff.mp named] at primaryOf
    exact built (.emptyPrimary primaryOf)
  | some primary =>
    rw [← ProviderId.ofText?_eq_some_iff.mp named] at primaryOf
    obtain ⟨registry, enrolled, hints⟩ := config.exists_enrolled
    let loader := Loader.ofRegistry (PlanStep.sourceOf config.steps) registry
    have loaded := loader.load_empty primary
    rw [BuiltinSource.verdict config.sourceOf_steps] at loaded
    dsimp only
    cases opened : (RouterPlan.enabledSource config).open? primary.text with
    | none =>
      rw [opened] at loaded
      have missing := built (.missing primaryOf enrolled loaded)
      rwa [hints] at missing
    | some provider =>
      rw [opened] at loaded
      cases provider with
      | core => exact ⟨_, built (.ready primaryOf enrolled loaded rfl)⟩
      | database => exact built (.silent primaryOf enrolled loaded rfl)
      | cloud => exact built (.silent primaryOf enrolled loaded rfl)
      | advanced => exact built (.silent primaryOf enrolled loaded rfl)

theorem outcome_of_failure {failure : RoutingError} (told : config.failure? = some failure) :
    (Router.ofConfig config).outcome = .error failure := by
  have built := config.build_spec
  rwa [told] at built

theorem failure?_of_named {primary : ProviderId} (named : config.primary = primary.text) :
    config.failure? =
      match (RouterPlan.enabledSource config).open? primary.text with
      | none => some (.primaryMissing primary (config.hintFor primary) (some .notInstalled))
      | some .core => none
      | some _ => some (.primaryMissing primary (Namespace.unpublishedHint primary) none) := by
  rw [failure?, ProviderId.ofText?_eq_some_iff.mpr named.symm]

theorem failure?_of_absent {primary : ProviderId} (named : config.primary = primary.text)
    (absent : config.Disables primary.text ∨
      ∀ provider : BundledProvider, provider.id.text ≠ primary.text) :
    config.failure? =
      some (.primaryMissing primary (config.hintFor primary) (some .notInstalled)) := by
  rw [failure?_of_named config named,
    BuiltinSource.open?_eq_none_iff.mpr (absent.imp_left config.disabled_enabledSource_iff.mpr)]

theorem failure?_of_enabled {provider : BundledProvider}
    (named : config.primary = provider.id.text) (enabled : ¬ config.Disables provider.id.text) :
    config.failure? =
      if provider = .core then none
      else some (.primaryMissing provider.id (Namespace.unpublishedHint provider.id) none) := by
  have opened : (RouterPlan.enabledSource config).open? provider.id.text = some provider :=
    BuiltinSource.open?_eq_some_iff.mpr ⟨rfl, mt config.disabled_enabledSource_iff.mp enabled⟩
  rw [failure?_of_named config named, opened]
  cases provider <;> rfl

theorem failure?_eq_none_iff :
    config.failure? = none ↔
      config.primary = BundledProvider.core.id.text ∧
        ¬ config.Disables BundledProvider.core.id.text := by
  constructor
  · intro sound
    rw [failure?] at sound
    split at sound
    · cases sound
    · rename_i primary named
      split at sound
      · cases sound
      · rename_i opened
        obtain ⟨same, enabled⟩ := BuiltinSource.open?_eq_some_iff.mp opened
        rw [disabled_enabledSource_iff, ← same] at enabled
        exact ⟨(ProviderId.ofText?_eq_some_iff.mp named).symm.trans same.symm, enabled⟩
      · cases sound
  · rintro ⟨named, enabled⟩
    exact config.failure?_of_enabled named enabled

theorem failure?_forms {failure : RoutingError} (told : config.failure? = some failure) :
    failure = .invalidName .emptyProvider ∨
      ∃ primary hint reason, failure = .primaryMissing primary hint reason := by
  rw [failure?] at told
  split at told
  · cases told
    exact .inl rfl
  · split at told
    · cases told
      exact .inr ⟨_, _, _, rfl⟩
    · cases told
    · cases told
      exact .inr ⟨_, _, _, rfl⟩

end RouterConfig

/-- Settings give a router exactly if their primary is the bundled provider with the shared symbols
and they do not turn it off.  Otherwise the primary decides the failure; a hint of the settings
counts for bundled ids only. -/
theorem router_of_settings (config : RouterConfig) :
    ((∃ router, (Router.ofConfig config).outcome = .ok router) ↔
      config.primary = "core" ∧ ¬ config.Disables "core") ∧
    (config.primary = "" →
      (Router.ofConfig config).outcome = .error (.invalidName .emptyProvider)) ∧
    (∀ provider : BundledProvider, config.primary = provider.id.text →
      config.Disables config.primary →
        (Router.ofConfig config).outcome = .error (.primaryMissing provider.id
          ((config.hint? config.primary).getD provider.installHint) (some .notInstalled))) ∧
    (∀ primary : ProviderId, config.primary = primary.text →
      (∀ provider : BundledProvider, provider.id ≠ primary) →
        (Router.ofConfig config).outcome = .error (.primaryMissing primary
          (defaultInstallHint config.primary) (some .notInstalled))) ∧
    (∀ provider : BundledProvider, config.primary = provider.id.text → provider ≠ .core →
      ¬ config.Disables config.primary →
        (Router.ofConfig config).outcome = .error (.primaryMissing provider.id
          (Namespace.unpublishedHint provider.id) none)) ∧
    ∀ failure, (Router.ofConfig config).outcome = .error failure →
      (∀ service existing conflicting, failure ≠ .duplicateService service existing conflicting) ∧
        ∀ fault, failure ≠ .config fault := by
  have built := config.build_spec
  refine ⟨?succeeds, ?empty, ?disabled, ?unbundled, ?unpublished, ?never⟩
  case succeeds =>
    refine Iff.trans ?_ config.failure?_eq_none_iff
    cases told : config.failure? with
    | none =>
      rw [told] at built
      simpa using built
    | some failure => simp [config.outcome_of_failure told]
  case empty =>
    intro empty
    refine config.outcome_of_failure ?_
    rw [RouterConfig.failure?, ProviderId.ofText?_eq_none_iff.mpr empty]
  case disabled =>
    intro provider named off
    rw [named] at off ⊢
    have hint : config.hintFor provider.id =
        (config.hint? provider.id.text).getD provider.installHint := by
      rw [RouterConfig.hintFor, BundledProvider.ofId?_eq_some_iff.mpr rfl]
    rw [← hint]
    exact config.outcome_of_failure (config.failure?_of_absent named (.inl off))
  case unbundled =>
    intro primary named unknown
    have absent : ∀ provider : BundledProvider, provider.id.text ≠ primary.text :=
      fun provider => ProviderId.text_injective.ne (unknown provider)
    have hint : config.hintFor primary = defaultInstallHint config.primary := by
      rw [RouterConfig.hintFor, BundledProvider.ofId?_eq_none_iff.mpr absent, named]
    rw [← hint]
    exact config.outcome_of_failure (config.failure?_of_absent named (.inr absent))
  case unpublished =>
    intro provider named other enabled
    rw [named] at enabled
    refine config.outcome_of_failure ?_
    rw [config.failure?_of_enabled named enabled, if_neg other]
  case never =>
    intro failure failed
    have told : config.failure? = some failure := by
      cases told : config.failure? with
      | none =>
        rw [told] at built
        obtain ⟨router, succeeded⟩ := built
        rw [succeeded] at failed
        cases failed
      | some other =>
        rw [config.outcome_of_failure told] at failed
        cases failed
        rfl
    rcases config.failure?_forms told with rfl | ⟨primary, hint, reason, rfl⟩ <;> simp

end ServiceRouting
