import ServiceRouting.Proofs.Router.Hints
import ServiceRouting.Proofs.Router.Isolation
import ServiceRouting.Proofs.Router.Openings

/-!
# Which install hint is told

A hint goes from a step of the plan through the registry and the loader into the failure of a load, and a
later step may have put another one in its place.  `PlanStep.Tells` says what a list of steps comes to
for an id, and `hints_as_told` that registry, loader and every failed load of a session tell just that.
-/

set_option autoImplicit false

namespace ServiceRouting

/-! ## What the steps say -/

namespace PlanStep

theorem hint?_eq_some_iff {step : PlanStep} {id hint : String} :
    step.hint? id = some hint ↔ step = .installHint id hint := by
  cases step with
  | installHint named given =>
    by_cases same : named = id <;> simp [hint?, same]
  | _ => simp [hint?]

theorem hint?_eq_none_iff {step : PlanStep} {id : String} :
    step.hint? id = none ↔ ∀ hint, step ≠ .installHint id hint := by
  simp only [Option.eq_none_iff_forall_ne_some, ne_eq, hint?_eq_some_iff]

/-- The hint that a list of steps comes to for an id, which may be the empty text. -/
inductive Tells (steps : List PlanStep) (id : String) : Option String → Prop where
  /-- The last hint put in place of the registered ones, before or after the registrations. -/
  | replaced {before after : List PlanStep} {hint : String} :
    (∃ registration ∈ steps.flatMap registrations, registration.id = id) →
    steps = before ++ .installHint id hint :: after →
    (∀ other, .installHint id other ∉ after) →
    Tells steps id (some hint)
  /-- The hint of the last registration, if no step puts another one in its place. -/
  | registered {before after : List Registration} {registration : Registration} :
    (∀ hint, .installHint id hint ∉ steps) →
    steps.flatMap registrations = before ++ registration :: after →
    registration.id = id → (∀ later ∈ after, later.id ≠ id) →
    Tells steps id (some registration.installHint)
  | unregistered :
    (∀ registration ∈ steps.flatMap registrations, registration.id ≠ id) →
    Tells steps id none

variable {steps : List PlanStep} {id : String} {told : Option String}

theorem Tells.eq (tells : Tells steps id told) :
    told = lastHint? (hintedRegistrations steps) id := by
  rw [lastHint?_hintedRegistrations]
  cases tells with
  | @replaced before after hint registered split last =>
    have present : lastHint? (steps.flatMap registrations) id ≠ none := by
      intro absent
      obtain ⟨registration, member, named⟩ := registered
      exact lastHint?_eq_none_iff.mp absent registration member named
    obtain ⟨own, found⟩ := Option.ne_none_iff_exists'.mp present
    have replaced : (steps.filterMap (hint? id)).getLast? = some hint := by
      refine LastOccurrence.getLast?_filterMap_eq_some_iff.mpr
        ⟨before, _, after, split, hint?_eq_some_iff.mpr rfl, ?_⟩
      intro later member
      refine hint?_eq_none_iff.mpr ?_
      rintro other rfl
      exact last other member
    rw [found, replaced]
    rfl
  | registered unreplaced split named latest =>
    have own := lastHint?_eq_some_iff.mpr ⟨_, _, _, split, named, rfl, latest⟩
    have silent : (steps.filterMap (hint? id)).getLast? = none := by
      refine LastOccurrence.getLast?_filterMap_eq_none_iff.mpr ?_
      intro step member
      refine hint?_eq_none_iff.mpr ?_
      rintro hint rfl
      exact unreplaced hint member
    rw [own, silent]
    rfl
  | unregistered absent =>
    rw [lastHint?_eq_none_iff.mpr absent]
    rfl

theorem tells_lastHint? (steps : List PlanStep) (id : String) :
    Tells steps id (lastHint? (hintedRegistrations steps) id) := by
  rw [lastHint?_hintedRegistrations]
  cases own : lastHint? (steps.flatMap registrations) id with
  | none => exact .unregistered (lastHint?_eq_none_iff.mp own)
  | some hint =>
    obtain ⟨_, registration, _, split, named, rfl, latest⟩ := lastHint?_eq_some_iff.mp own
    cases replaced : (steps.filterMap (hint? id)).getLast? with
    | none =>
      refine .registered ?_ split named latest
      intro hint member
      have silent := LastOccurrence.getLast?_filterMap_eq_none_iff.mp replaced _ member
      exact hint?_eq_none_iff.mp silent hint rfl
    | some hint =>
      obtain ⟨_, step, _, place, said, silent⟩ :=
        LastOccurrence.getLast?_filterMap_eq_some_iff.mp replaced
      obtain rfl := hint?_eq_some_iff.mp said
      refine .replaced ⟨registration, by simp [split], named⟩ place ?_
      intro other member
      exact hint?_eq_none_iff.mp (silent _ member) other rfl

theorem tells_iff : Tells steps id told ↔ told = lastHint? (hintedRegistrations steps) id := by
  refine ⟨Tells.eq, ?_⟩
  rintro rfl
  exact tells_lastHint? steps id

end PlanStep

/-! ## What failed loads tell -/

/-- The failed load that an answer reports.  A bind reports it as a missing primary. -/
def Answer.unavailable? : Answer → Option Unavailable
  | .failed (.providerUnavailable failure) => some failure
  | .failed (.primaryMissing primary text (some reason)) => some ⟨primary, text, reason⟩
  | .status (.failed failure) => some failure
  | _ => none

/-- A failure names the id that was asked for and tells the loader's hint for it. -/
def Loader.Explains (loader : Loader) (id : ProviderId)
    (answer : Except Unavailable LoadedModule) : Prop :=
  ∀ failure, answer = .error failure →
    failure.provider = id ∧ failure.installHint = loader.installHint id

namespace Loader

variable (loader : Loader)

theorem explains_verdict (earlier : List ProviderId) (id : ProviderId) :
    loader.Explains id (loader.verdict earlier id) := by
  intro failure failed
  rw [verdict] at failed
  cases outcome : (loader.examine id (loader.source.answer earlier id)).outcome with
  | ok content =>
    rw [outcome] at failed
    cases failed
  | error reason =>
    rw [outcome] at failed
    cases failed
    exact ⟨rfl, rfl⟩

theorem explains_load {table : LoadTable} (explained : table.AllAnswers loader.Explains)
    (id : ProviderId) : loader.Explains id (loader.load id table).1 :=
  (loader.load_allAnswers loader.explains_verdict explained id).1

end Loader

theorem LoadTable.answer?_of_failed {table : LoadTable} {id : ProviderId} {failure : Unavailable}
    (failed : table.status id = .failed failure) : table.answer? id = some (.error failure) := by
  rw [status] at failed
  rw [answer?]
  cases slot : (table.slot id).state with
  | failed given =>
    rw [slot] at failed
    cases failed
    rfl
  | _ =>
    rw [slot] at failed
    cases failed

theorem Registry.unavailable?_of_lookup [Matcher] {registry : Registry} {service : String}
    {failure : RoutingError} (failed : registry.lookup service = .error failure) :
    (Answer.failed failure).unavailable? = none := by
  rw [lookup] at failed
  split at failed
  · cases failed
    rfl
  · split at failed
    · cases failed
    · cases failed
      rfl

section Reported

variable {answer : Except Unavailable LoadedModule} {failure : Unavailable}

theorem Answer.error_of_ofLoad (reported : (ofLoad answer).unavailable? = some failure) :
    answer = .error failure := by
  cases answer with
  | error given =>
    cases reported
    rfl
  | ok live => cases reported

/-- What a module refuses, and an empty name, are failures of another kind. -/
theorem Answer.error_of_handleOf {style : CallStyle} {service : String} {options : Options}
    (reported : (Routing.answerHandle
      (Routing.handleOf style service options answer)).unavailable? = some failure) :
    answer = .error failure := by
  cases answer with
  | error given =>
    cases reported
    rfl
  | ok live =>
    by_cases empty : service = ""
    · subst empty
      cases reported
    · have named : ServiceName.ofText service = .ok ⟨service, empty⟩ :=
        ServiceName.ofText_eq_ok_iff.mpr rfl
      rw [Routing.handleOf, named] at reported
      dsimp only at reported
      split at reported
      · cases reported
      · cases reported

theorem Namespace.error_of_ofLoad {id : ProviderId} {refusal : RoutingError}
    (refused : ofLoad id answer = .error refusal)
    (reported : (Answer.failed refusal).unavailable? = some failure) :
    ∃ given, answer = .error given ∧ failure = ⟨id, given.installHint, given.reason⟩ := by
  cases answer with
  | error given =>
    cases refused
    cases reported
    exact ⟨given, rfl, rfl⟩
  | ok live =>
    rw [ofLoad] at refused
    split at refused
    · cases refused
      cases reported
    · cases refused

end Reported

namespace Routing

variable {routing : Routing} {state : SessionState} {failure : Unavailable}

/-- Every failed load that a request reports is one of the id that the request has to do with. -/
theorem explains_answer [Matcher] (explained : state.table.AllAnswers routing.loader.Explains)
    {request : Request}
    (reported : (routing.answer state request).1.unavailable? = some failure) :
    routing.Concerns failure.provider state request ∧
      failure.installHint = routing.loader.installHint failure.provider := by
  have loads := routing.loader.explains_load explained
  cases request with
  | load id =>
    rw [answer_load] at reported
    obtain ⟨rfl, told⟩ := loads id failure (Answer.error_of_ofLoad reported)
    exact ⟨rfl, told⟩
  | status id =>
    dsimp only [answer] at reported
    cases status : state.table.status id with
    | failed given =>
      rw [status] at reported
      cases reported
      obtain ⟨rfl, told⟩ := explained id _ (LoadTable.answer?_of_failed status) failure rfl
      exact ⟨rfl, told⟩
    | _ =>
      rw [status] at reported
      cases reported
  | make style id service options =>
    dsimp only [answer] at reported
    rw [(routing.make_spec style service options state.table id).1] at reported
    obtain ⟨rfl, told⟩ := loads id failure (Answer.error_of_handleOf reported)
    exact ⟨rfl, told⟩
  | create style service options =>
    dsimp only [answer] at reported
    cases known : routing.registry.lookup service with
    | error fault =>
      rw [create_of_unknown routing style service options _ known, answerHandle,
        Registry.unavailable?_of_lookup known] at reported
      cases reported
    | ok owner =>
      rw [(routing.create_of_owner style service options state.table known).1] at reported
      obtain ⟨rfl, told⟩ := loads owner failure (Answer.error_of_handleOf reported)
      exact ⟨Registry.lookup_eq_ok_iff.mp known, told⟩
  | bind id =>
    rw [answer_bind] at reported
    cases bound : Namespace.ofLoad id (routing.loader.load id state.table).1 with
    | error refusal =>
      rw [bound] at reported
      obtain ⟨given, brought, rfl⟩ := Namespace.error_of_ofLoad bound reported
      exact ⟨rfl, (loads id given brought).2⟩
    | ok space =>
      rw [bound] at reported
      cases reported
  | shared asked =>
    dsimp only [answer] at reported
    split at reported
    · cases reported
    · cases reported
  | lookup service =>
    dsimp only [answer] at reported
    cases known : routing.registry.lookup service with
    | error fault =>
      rw [known] at reported
      exact absurd ((Registry.unavailable?_of_lookup known).symm.trans reported) (by simp)
    | ok owner =>
      rw [known] at reported
      cases reported
  | _ => cases reported

end Routing

/-- A registered id has the hint that was last put in place of its own, before or after its
registrations, else that of its last registration; for any other id nothing is registered, and the loader
has the default.  These are the hints that the registry, the loader and every failed load of a session
tell.  A step that sets a hint, the source or the primary may stand anywhere among steps that do not set
the same thing. -/
theorem hints_as_told [Matcher] (steps : List PlanStep) (router : Router)
    (built : (RouterPlan.ofSteps steps).build.outcome = .ok router) :
    let routing := router.routing
    let start := router.start (RouterPlan.ofSteps steps).build.table
    (∀ id told, PlanStep.Tells steps id told ↔ routing.registry.installHint? id = told) ∧
    (∀ id : ProviderId, routing.loader.installHint id =
      (routing.registry.installHint? id.text).getD (defaultInstallHint id.text)) ∧
    (∀ requests request failure,
      (routing.answer (routing.after start requests) request).1.unavailable? = some failure →
        routing.Concerns failure.provider (routing.after start requests) request ∧
          failure.installHint = routing.loader.installHint failure.provider) ∧
    ∀ others, PlanStep.Moved steps others ∨ PlanStep.Moved others steps →
      (RouterPlan.ofSteps others).build = (RouterPlan.ofSteps steps).build := by
  intro routing start
  obtain ⟨primary, yields⟩ := RouterPlan.exists_yields built
  have enrolled := yields.enrolled
  rw [RouterPlan.ofSteps_hinted] at enrolled
  obtain ⟨acceptable, reflects⟩ := Registry.reflects_of_enrol enrolled
  refine ⟨?_, ?_, ?_, ?_⟩
  · intro id told
    rw [PlanStep.tells_iff, reflects.installHint? acceptable, eq_comm]
  · intro id
    rw [reflects.installHint? acceptable, show routing.loader = _ from yields.loader,
      reflects.installHint]
  · intro requests request failure reported
    have explained : (routing.after start requests).table.AllAnswers routing.loader.Explains :=
      routing.allAnswers_after routing.loader.explains_verdict yields.kept
        (yields.allAnswers routing.loader.explains_verdict) requests
    exact Routing.explains_answer explained reported
  · rintro others (moved | moved)
    · rw [RouterPlan.ofSteps_of_moved moved]
    · rw [RouterPlan.ofSteps_of_moved moved]

/-- Hints put in place before and after the registrations and for nobody, and a last registration with
an empty hint. -/
def PlanStep.overruling : List PlanStep :=
  [.installHint "database" "ask for it",
    .provider ⟨"core", ["memory"], "install core"⟩,
    .provider ⟨"database", ["redis"], "install database"⟩,
    .provider ⟨"cloud", ["dropbox"], "install cloud"⟩,
    .installHint "ghost" "call",
    .source (StaticSource.empty.addModule "core"
      BundledProvider.core.tableProvider.asModule).source,
    .provider ⟨"cloud", ["gdrive"], ""⟩,
    .installHint "database" "ask again"]

theorem hints_of_overruling :
    ∃ router, (RouterPlan.ofSteps PlanStep.overruling).build.outcome = .ok router ∧
      router.routing.registry.installHint? "database" = some "ask again" ∧
      router.routing.registry.installHint? "cloud" = some "" ∧
      router.routing.loader.installHint .ghost = defaultInstallHint "ghost" ∧
      ∃ failure, (router.routing.answer
          (router.start (RouterPlan.ofSteps PlanStep.overruling).build.table)
          (.create .awaited "redis" ∅)).1.unavailable? = some failure ∧
        failure.installHint = "ask again" := by
  refine ⟨_, rfl, ?_⟩
  obtain ⟨told, standard, reported, _⟩ := hints_as_told PlanStep.overruling _ rfl
  have early : PlanStep.overruling =
      PlanStep.overruling.take 7 ++ [.installHint "database" "ask again"] := rfl
  have database := (told "database" (some "ask again")).mp <|
    .replaced ⟨⟨"database", ["redis"], "install database"⟩, by decide, rfl⟩ early (by simp)
  have split : PlanStep.overruling.flatMap PlanStep.registrations =
      (PlanStep.overruling.take 6).flatMap PlanStep.registrations ++
        [⟨"cloud", ["gdrive"], ""⟩] := rfl
  have cloud := (told "cloud" (some "")).mp <|
    .registered (by simp [PlanStep.overruling]) split rfl (by simp)
  have ghost := (told "ghost" none).mp (.unregistered (by decide))
  refine ⟨database, cloud, ?_, _, rfl, ?_⟩
  · exact (standard .ghost).trans (congrArg (Option.getD · _) ghost)
  · obtain ⟨_, hint⟩ := reported [] (.create .awaited "redis" ∅) _ rfl
    exact (hint.trans (standard _)).trans (congrArg (Option.getD · _) database)

end ServiceRouting
