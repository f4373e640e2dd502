import ServiceRouting.Config.Settings
import ServiceRouting.Router

/-!
# Plans for a router

A plan collects registrations, replacements for install hints, a source and the primary provider,
in any order.  Building it takes in the registrations, makes the loader and binds the shared
symbols; the first step that fails decides the error.
-/

set_option autoImplicit false

namespace ServiceRouting

structure RouterPlan where
  registrations : List Registration := []
  hints : SortedMap String String := .empty
  source : Option Source := none
  primary : Option String := none

/-- One step of making a plan. -/
inductive PlanStep where
  | provider (registration : Registration)
  | manifest (manifest : Manifest)
  | bundledManifests
  /-- The bundled manifests together with the bundled providers as the source. -/
  | builtin
  | installHint (id hint : String)
  | source (source : Source)
  | primary (id : String)

/-- A router or the reason why there is none, with the table of what was loaded meanwhile. -/
structure BuiltRouter where
  outcome : Except RoutingError Router
  table : LoadTable

namespace RouterPlan

def withManifests (plan : RouterPlan) (manifests : List Manifest) : RouterPlan :=
  { plan with registrations := plan.registrations ++ manifests.map Manifest.registration }

def apply (plan : RouterPlan) : PlanStep → RouterPlan
  | .provider registration =>
    { plan with registrations := plan.registrations ++ [registration] }
  | .manifest manifest => plan.withManifests [manifest]
  | .bundledManifests => plan.withManifests bundledManifests
  | .builtin =>
    { plan.withManifests bundledManifests with source := some BuiltinSource.empty.source }
  | .installHint id hint => { plan with hints := plan.hints.insert id hint }
  | .source source => { plan with source := some source }
  | .primary id => { plan with primary := some id }

def ofSteps (steps : List PlanStep) : RouterPlan :=
  steps.foldl apply {}

/-! ## Building -/

/-- The primary provider that was named, else the first one registered. -/
def primary? (plan : RouterPlan) : Option String :=
  plan.primary.or (plan.registrations.head?.map Registration.id)

/-- The registrations with their hints replaced. -/
def hinted (plan : RouterPlan) : List Registration :=
  plan.registrations.map fun registration =>
    { registration with
      installHint := (plan.hints.get? registration.id).getD registration.installHint }

def sourceOrNone (plan : RouterPlan) : Source :=
  plan.source.getD StaticSource.empty.source

/-- Binds the shared symbols over a finished registry. -/
def finish (plan : RouterPlan) (primary : ProviderId) (registry : Registry)
    (table : LoadTable) : BuiltRouter :=
  let loader := Loader.ofRegistry plan.sourceOrNone registry
  match Namespace.bind loader primary table with
  | (.error failure, bound) => ⟨.error failure, bound⟩
  | (.ok shared, bound) =>
    let count := registry.size
    ⟨.ok ⟨⟨registry, loader⟩, shared⟩,
      bound.note .debug .assembly s!"router ready: {count} service(s), primary '{primary}'"⟩

def build (plan : RouterPlan) : BuiltRouter :=
  match plan.primary? with
  | none => ⟨.error (.config .noProviders), .empty⟩
  | some text =>
    match ProviderId.ofText text with
    | .error failure => ⟨.error failure, .empty⟩
    | .ok primary =>
      let enrolment := Registry.enrol plan.hinted
      let table := LoadTable.empty.record (enrolment.log.map Event.noted)
      match enrolment.outcome with
      | .error (failure, _) => ⟨.error failure, table⟩
      | .ok registry => plan.finish primary registry table

/-! ## From settings -/

/-- The steps that one provider's settings ask for. -/
def settingSteps (entry : String × ProviderSettings) : List PlanStep :=
  match entry.2.installHint with
  | some hint => [.installHint entry.1 hint]
  | none => []

/-- The bundled providers without those that the settings do not enable. -/
def enabledSource (config : RouterConfig) : BuiltinSource :=
  config.providers.entries.foldl
    (fun source entry => if entry.2.enabled then source else source.disable entry.1)
    BuiltinSource.empty

def ofConfig (config : RouterConfig) : RouterPlan :=
  ofSteps (.bundledManifests :: config.providers.entries.flatMap settingSteps ++
    [.source (enabledSource config).source, .primary config.primary])

end RouterPlan

def Router.ofConfig (config : RouterConfig) : BuiltRouter :=
  (RouterPlan.ofConfig config).build

end ServiceRouting
