import ServiceRouting.Namespace

/-!
# Routing requests

A request names a service.  It is looked up, the module of its owner is loaded, and the module
constructs the handle, in this order: an unknown name fails before anything is loaded, an absent
provider fails with its install hint, and what the provider itself says is passed on unchanged.
-/

set_option autoImplicit false

namespace ServiceRouting

/-- The registry and the loader that work together. -/
structure Routing where
  registry : Registry
  loader : Loader

/-- Routing with the shared symbols of its primary provider. -/
structure Router where
  routing : Routing
  shared : Namespace

namespace Routing

/-- The name as a service name and the loaded module of its owner. -/
def dispatch [Matcher] (routing : Routing) (service : String) (table : LoadTable) :
    Except RoutingError (ServiceName × LoadedModule) × LoadTable :=
  match routing.registry.lookup service with
  | .error failure => (.error failure, table)
  | .ok owner =>
    match ServiceName.ofText service with
    | .error failure => (.error failure, table)
    | .ok name =>
      let noted := table.note .debug .router s!"routing '{name}' to provider '{owner}'"
      match routing.loader.load owner noted with
      | (.error failure, loaded) => (.error (.providerUnavailable failure), loaded)
      | (.ok live, loaded) => (.ok (name, live), loaded)

/-- Has a loaded module construct a service. -/
def construct (style : CallStyle) (name : ServiceName) (live : LoadedModule)
    (options : Options) (table : LoadTable) : Except RoutingError Handle × LoadTable :=
  let construction := live.content.construct style name options
  let done := table.record
    (.constructing live.content.id name :: construction.log.map Event.noted)
  match construction.outcome with
  | .error failure => (.error (.refused failure), done)
  | .ok handle => (.ok handle, done)

def create [Matcher] (routing : Routing) (style : CallStyle) (service : String) (options : Options)
    (table : LoadTable) : Except RoutingError Handle × LoadTable :=
  match routing.dispatch service table with
  | (.error failure, loaded) => (.error failure, loaded)
  | (.ok (name, live), loaded) => construct style name live options loaded

/-- Constructs with the module of a given provider, whoever owns the service. -/
def make (routing : Routing) (style : CallStyle) (id : ProviderId) (service : String)
    (options : Options) (table : LoadTable) : Except RoutingError Handle × LoadTable :=
  match routing.loader.load id table with
  | (.error failure, loaded) => (.error (.providerUnavailable failure), loaded)
  | (.ok live, loaded) =>
    match ServiceName.ofText service with
    | .error failure => (.error failure, loaded)
    | .ok name => construct style name live options loaded

end Routing

end ServiceRouting
