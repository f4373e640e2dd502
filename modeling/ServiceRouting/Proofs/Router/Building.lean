import ServiceRouting.Proofs.Router.PlanSteps
import ServiceRouting.Proofs.Router.Requests

/-!
# How building a router comes out

Building goes through its steps in a fixed order, and the first one that fails decides the failure:
naming the primary provider, taking in the registrations, loading the primary, binding what it
publishes.  `BuildsTo` has a case for each outcome, with the ids that the source was asked for, and
`buildsTo_iff` says that every list of steps builds to exactly what one of the cases gives.
-/

set_option autoImplicit false

namespace ServiceRouting

/-! ## The load of the primary -/

namespace Loader

variable (loader : Loader) (id : ProviderId)

theorem load_empty : (loader.load id .empty).1 = loader.verdict [] id := by
  rw [loader.load_of_fresh rfl, (loader.attempt_spec id .empty).1]
  rfl

theorem opened_load_empty : (loader.load id .empty).2.opened = [id] := by
  rw [loader.load_of_fresh rfl, (loader.attempt_spec id .empty).2.1]
  rfl

/-- A failed load tells the hint that the loader gives for the id. -/
theorem installHint_of_load_empty {failure : Unavailable}
    (failed : (loader.load id .empty).1 = .error failure) :
    failure.installHint = loader.installHint id := by
  rw [load_empty, verdict] at failed
  cases examined : (loader.examine id (loader.source.answer [] id)).outcome with
  | ok content =>
    rw [examined] at failed
    cases failed
  | error reason =>
    rw [examined] at failed
    cases failed
    rfl

end Loader

/-! ## Building one plan -/

namespace RouterPlan

variable {plan : RouterPlan} {primary : ProviderId}

theorem build_of_unnamed (unnamed : plan.primary? = none) :
    plan.build = ⟨.error (.config .noProviders), .empty⟩ := by
  rw [build, unnamed]

theorem build_of_empty (empty : plan.primary? = some "") :
    plan.build = ⟨.error (.invalidName .emptyProvider), .empty⟩ := by
  rw [build, empty]
  rfl

/-- Past the naming of the primary, the registrations decide. -/
theorem build_of_named (named : plan.primary? = some primary.text) :
    let enrolment := Registry.enrol plan.hinted
    let table := LoadTable.empty.record (enrolment.log.map Event.noted)
    plan.build =
      match enrolment.outcome with
      | .error (failure, _) => ⟨.error failure, table⟩
      | .ok registry => plan.finish primary registry table := by
  have read : ProviderId.ofText primary.text = .ok primary := ProviderId.ofText_eq_ok_iff.mpr rfl
  rw [build, named]
  dsimp only
  cases given : ProviderId.ofText primary.text with
  | error failure =>
    rw [read] at given
    cases given
  | ok id =>
    rw [read] at given
    cases given
    rfl

theorem enrolled_alike (records : List LogRecord) :
    (LoadTable.empty.record (records.map Event.noted)).Alike .empty :=
  LoadTable.alike_record _ (by simp)

theorem build_of_refused {failure : RoutingError} {position : Nat}
    (named : plan.primary? = some primary.text)
    (refused : (Registry.enrol plan.hinted).outcome = .error (failure, position)) :
    plan.build.outcome = .error failure ∧ plan.build.table.Alike .empty := by
  rw [build_of_named named, refused]
  exact ⟨rfl, enrolled_alike _⟩

/-- Once the registrations are taken in, the load of the primary decides. -/
theorem build_of_enrolled {registry : Registry} (named : plan.primary? = some primary.text)
    (enrolled : (Registry.enrol plan.hinted).outcome = .ok registry) :
    let loader := Loader.ofRegistry plan.sourceOrNone registry
    plan.build.outcome = (Namespace.ofLoad primary (loader.load primary .empty).1).map
        (fun shared => ⟨⟨registry, loader⟩, shared⟩) ∧
      plan.build.table.Alike (loader.load primary .empty).2 := by
  intro loader
  rw [build_of_named named, enrolled]
  -- The records of the registrations stand in the table, but loads do not look at them.
  obtain ⟨loaded, same⟩ := (Loader.AgreeOn.refl loader).load
    (enrolled_alike (Registry.enrol plan.hinted).log) primary
  obtain ⟨bound, tables⟩ := Namespace.bind_spec loader primary
    (LoadTable.empty.record ((Registry.enrol plan.hinted).log.map Event.noted))
  rw [same trivial] at bound
  dsimp only [finish]
  rw [← bound]
  revert tables
  rcases Namespace.bind loader primary
    (LoadTable.empty.record ((Registry.enrol plan.hinted).log.map Event.noted)) with
    ⟨failure | shared, table⟩
  · intro tables
    exact ⟨rfl, tables.trans loaded⟩
  · intro tables
    exact ⟨rfl, (table.alike_note _ _ _).trans (tables.trans loaded)⟩

end RouterPlan

/-! ## Routers that were built -/

/-- How a built router hangs together with its plan: the registrations are taken in, and the first
load of the primary gives the bound symbols. -/
structure RouterPlan.Yields (plan : RouterPlan) (primary : ProviderId) (router : Router) :
    Prop where
  named : plan.primary? = some primary.text
  enrolled : (Registry.enrol plan.hinted).outcome = .ok router.routing.registry
  loader : router.routing.loader = .ofRegistry plan.sourceOrNone router.routing.registry
  shared : Namespace.ofLoad primary (router.routing.loader.load primary .empty).1 =
    .ok router.shared
  table : plan.build.table.Alike (router.routing.loader.load primary .empty).2

namespace RouterPlan

variable {plan : RouterPlan} {primary : ProviderId} {router : Router}

theorem exists_yields (built : plan.build.outcome = .ok router) :
    ∃ primary, plan.Yields primary router := by
  cases named : plan.primary? with
  | none =>
    rw [build_of_unnamed named] at built
    cases built
  | some text =>
    by_cases empty : text = ""
    · rw [build_of_empty (empty ▸ named)] at built
      cases built
    · let primary : ProviderId := ⟨text, empty⟩
      have named : plan.primary? = some primary.text := named
      cases enrolled : (Registry.enrol plan.hinted).outcome with
      | error failure =>
        rw [(build_of_refused named enrolled).1] at built
        cases built
      | ok registry =>
        obtain ⟨outcome, table⟩ := build_of_enrolled named enrolled
        rw [outcome] at built
        cases bound : Namespace.ofLoad primary
            ((Loader.ofRegistry plan.sourceOrNone registry).load primary .empty).1 with
        | error failure =>
          rw [bound] at built
          cases built
        | ok shared =>
          rw [bound] at built
          cases built
          exact ⟨primary, named, enrolled, rfl, bound, table⟩

theorem Yields.source (yields : plan.Yields primary router) :
    router.routing.loader.source = plan.sourceOrNone := by
  rw [yields.loader]
  rfl

theorem Yields.opened (yields : plan.Yields primary router) :
    plan.build.table.opened = [primary] :=
  yields.table.opened.trans (router.routing.loader.opened_load_empty primary)

/-- What loads keep from an empty table, the build of a router establishes. -/
theorem Yields.holds {holds : LoadTable → Prop} (yields : plan.Yields primary router)
    (keeps : router.routing.loader.Keeps holds) (fresh : holds .empty) : holds plan.build.table :=
  keeps.alike yields.table (keeps.load primary fresh)

theorem Yields.settled (yields : plan.Yields primary router) : plan.build.table.Settled :=
  yields.holds router.routing.loader.keeps_settled LoadTable.settled_empty

theorem Yields.allAnswers {holds : ProviderId → Except Unavailable LoadedModule → Prop}
    (yields : plan.Yields primary router)
    (first : ∀ earlier id, holds id (router.routing.loader.verdict earlier id)) :
    plan.build.table.AllAnswers holds :=
  yields.holds (router.routing.loader.keeps_allAnswers first) LoadTable.allAnswers_empty

theorem Yields.kept (yields : plan.Yields primary router) :
    (router.start plan.build.table).Kept := by
  rintro space ⟨⟩
  rw [Namespace.ofLoad_provider yields.shared]
  refine (yields.settled.mem_opened_iff primary).mp ?_
  rw [yields.opened]
  exact List.mem_singleton_self primary

end RouterPlan

/-! ## Every outcome of a list of steps -/

/-- What the steps build to, and the ids that the source was asked to open meanwhile.  Each case
assumes what the cases before it rule out. -/
inductive BuildsTo (steps : List PlanStep) :
    Except RoutingError Router → List ProviderId → Prop where
  /-- No primary provider was named and nothing was registered. -/
  | nobody :
    (∀ step ∈ steps, step.primary? = none ∧ step.registrations = []) →
    BuildsTo steps (.error (.config .noProviders)) []
  | emptyPrimary :
    PlanStep.primaryOf? steps = some "" →
    BuildsTo steps (.error (.invalidName .emptyProvider)) []
  | refused {primary : ProviderId} {failure : RoutingError} {position : Nat} :
    PlanStep.primaryOf? steps = some primary.text →
    (Registry.enrol (PlanStep.hintedRegistrations steps)).outcome = .error (failure, position) →
    BuildsTo steps (.error failure) []
  /-- The primary's module could not be loaded. -/
  | missing {primary : ProviderId} {registry : Registry} {failure : Unavailable} :
    PlanStep.primaryOf? steps = some primary.text →
    (Registry.enrol (PlanStep.hintedRegistrations steps)).outcome = .ok registry →
    ((Loader.ofRegistry (PlanStep.sourceOf steps) registry).load primary .empty).1 =
      .error failure →
    BuildsTo steps
      (.error (.primaryMissing primary
        ((Loader.ofRegistry (PlanStep.sourceOf steps) registry).installHint primary)
        (some failure.reason)))
      [primary]
  /-- The primary's module is there and publishes nothing. -/
  | silent {primary : ProviderId} {registry : Registry} {live : LoadedModule} :
    PlanStep.primaryOf? steps = some primary.text →
    (Registry.enrol (PlanStep.hintedRegistrations steps)).outcome = .ok registry →
    ((Loader.ofRegistry (PlanStep.sourceOf steps) registry).load primary .empty).1 = .ok live →
    live.exports? = none →
    BuildsTo steps
      (.error (.primaryMissing primary (Namespace.unpublishedHint primary) none)) [primary]
  | ready {primary : ProviderId} {registry : Registry} {live : LoadedModule}
      {exports : PublishedTable} :
    PlanStep.primaryOf? steps = some primary.text →
    (Registry.enrol (PlanStep.hintedRegistrations steps)).outcome = .ok registry →
    ((Loader.ofRegistry (PlanStep.sourceOf steps) registry).load primary .empty).1 = .ok live →
    live.exports? = some exports →
    BuildsTo steps
      (.ok ⟨⟨registry, .ofRegistry (PlanStep.sourceOf steps) registry⟩, ⟨primary, exports⟩⟩)
      [primary]

theorem PlanStep.primaryOf?_eq_none_iff {steps : List PlanStep} :
    primaryOf? steps = none ↔ ∀ step ∈ steps, step.primary? = none ∧ step.registrations = [] := by
  simp only [primaryOf?, Option.or_eq_none_iff, List.getLast?_eq_none_iff,
    List.filterMap_eq_nil_iff, Option.map_eq_none_iff, List.head?_eq_none_iff,
    List.flatMap_eq_nil_iff, forall_and]

/-! ## Steps and outcomes -/

namespace RouterPlan

variable {steps : List PlanStep} {primary : ProviderId} {registry : Registry}

theorem build_ofSteps_of_enrolled
    (named : PlanStep.primaryOf? steps = some primary.text)
    (enrolled : (Registry.enrol (PlanStep.hintedRegistrations steps)).outcome = .ok registry) :
    let loader := Loader.ofRegistry (PlanStep.sourceOf steps) registry
    (ofSteps steps).build.outcome = (Namespace.ofLoad primary (loader.load primary .empty).1).map
        (fun shared => ⟨⟨registry, loader⟩, shared⟩) ∧
      (ofSteps steps).build.table.opened = [primary] := by
  intro loader
  rw [← ofSteps_primary?] at named
  rw [← ofSteps_hinted] at enrolled
  obtain ⟨outcome, table⟩ := build_of_enrolled named enrolled
  rw [ofSteps_sourceOrNone] at outcome table
  exact ⟨outcome, table.opened.trans (loader.opened_load_empty primary)⟩

end RouterPlan

theorem BuildsTo.eq_build {steps : List PlanStep} {outcome : Except RoutingError Router}
    {opened : List ProviderId} (builds : BuildsTo steps outcome opened) :
    outcome = (RouterPlan.ofSteps steps).build.outcome ∧
      opened = (RouterPlan.ofSteps steps).build.table.opened := by
  cases builds with
  | nobody absent =>
    rw [← PlanStep.primaryOf?_eq_none_iff, ← RouterPlan.ofSteps_primary?] at absent
    rw [RouterPlan.build_of_unnamed absent]
    exact ⟨rfl, rfl⟩
  | emptyPrimary empty =>
    rw [← RouterPlan.ofSteps_primary?] at empty
    rw [RouterPlan.build_of_empty empty]
    exact ⟨rfl, rfl⟩
  | refused named refused =>
    rw [← RouterPlan.ofSteps_primary?] at named
    rw [← RouterPlan.ofSteps_hinted] at refused
    obtain ⟨failed, table⟩ := RouterPlan.build_of_refused named refused
    exact ⟨failed.symm, table.opened.symm⟩
  | missing named enrolled failed =>
    obtain ⟨outcome, opened⟩ := RouterPlan.build_ofSteps_of_enrolled named enrolled
    rw [outcome, opened, failed, ← Loader.installHint_of_load_empty _ _ failed]
    exact ⟨rfl, rfl⟩
  | silent named enrolled loaded unpublished =>
    obtain ⟨outcome, opened⟩ := RouterPlan.build_ofSteps_of_enrolled named enrolled
    rw [outcome, opened, loaded, Namespace.ofLoad, unpublished]
    exact ⟨rfl, rfl⟩
  | ready named enrolled loaded published =>
    obtain ⟨outcome, opened⟩ := RouterPlan.build_ofSteps_of_enrolled named enrolled
    rw [outcome, opened, loaded, Namespace.ofLoad, published]
    exact ⟨rfl, rfl⟩

theorem exists_buildsTo (steps : List PlanStep) :
    ∃ outcome opened, BuildsTo steps outcome opened := by
  cases named : PlanStep.primaryOf? steps with
  | none => exact ⟨_, _, .nobody (PlanStep.primaryOf?_eq_none_iff.mp named)⟩
  | some text =>
    by_cases empty : text = ""
    · exact ⟨_, _, .emptyPrimary (empty ▸ named)⟩
    · let primary : ProviderId := ⟨text, empty⟩
      have named : PlanStep.primaryOf? steps = some primary.text := named
      cases enrolled : (Registry.enrol (PlanStep.hintedRegistrations steps)).outcome with
      | error failure => exact ⟨_, _, .refused named enrolled⟩
      | ok registry =>
        cases loaded :
            ((Loader.ofRegistry (PlanStep.sourceOf steps) registry).load primary .empty).1 with
        | error failure => exact ⟨_, _, .missing named enrolled loaded⟩
        | ok live =>
          cases published : live.exports? with
          | none => exact ⟨_, _, .silent named enrolled loaded published⟩
          | some exports => exact ⟨_, _, .ready named enrolled loaded published⟩

/-- Steps that name a primary provider which none of them registers. -/
def PlanStep.unregisteredPrimary : List PlanStep :=
  [.provider ⟨"database", ["redis"], "install database"⟩,
    .source (StaticSource.empty.addModule "core"
      BundledProvider.core.tableProvider.asModule).source,
    .primary "core"]

/-- Building a list of steps comes out as one case says, and as no other: the first failure in the
order of the cases, or a router over the registrations with the symbols of its primary.  The source
is asked for the primary alone, and only once the registrations are taken in.  The primary need not
be among the registered providers. -/
theorem buildsTo_iff :
    (∀ steps outcome opened, BuildsTo steps outcome opened ↔
      outcome = (RouterPlan.ofSteps steps).build.outcome ∧
        opened = (RouterPlan.ofSteps steps).build.table.opened) ∧
    ∃ steps router, (RouterPlan.ofSteps steps).build.outcome = .ok router ∧
      ∀ registration ∈ steps.flatMap PlanStep.registrations,
        registration.id ≠ router.shared.provider.text := by
  refine ⟨?_, PlanStep.unregisteredPrimary, ?_⟩
  · intro steps outcome opened
    refine ⟨BuildsTo.eq_build, ?_⟩
    rintro ⟨rfl, rfl⟩
    obtain ⟨outcome, opened, builds⟩ := exists_buildsTo steps
    obtain ⟨rfl, rfl⟩ := builds.eq_build
    exact builds
  · refine ⟨_, rfl, ?_⟩
    decide

end ServiceRouting
