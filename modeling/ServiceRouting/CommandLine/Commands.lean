import ServiceRouting.CommandLine.Arguments
import ServiceRouting.Data.Json
import ServiceRouting.Router.Session

/-!
# Commands

What each command prints for a router, and how it fails.  Listing and resolving load nothing;
creating loads the module of the owner and checks the new handle before anything is printed.
-/

set_option autoImplicit false

namespace ServiceRouting

namespace CommandLine

structure CommandResult where
  /-- All that is printed, with its line ends. -/
  output : String
  outcome : Except RoutingError Unit
  table : LoadTable

def CommandResult.printed (output : String) (table : LoadTable) : CommandResult :=
  ⟨output, .ok (), table⟩

def CommandResult.failed (failure : RoutingError) (table : LoadTable) : CommandResult :=
  ⟨"", .error failure, table⟩

/-! ## Listings -/

def statusText (table : LoadTable) (id : ProviderId) : String :=
  (table.status id).describe

def serviceLine (table : LoadTable) (entry : ServiceName × ProviderId) : String :=
  Layout.column 18 entry.1.text ++ " " ++ Layout.column 10 entry.2.text ++ " " ++
    statusText table entry.2 ++ "\n"

def serviceDatum (table : LoadTable) (entry : ServiceName × ProviderId) : Datum :=
  .mapping [("provider", .text entry.2.text), ("service", .text entry.1.text),
    ("status", .text (statusText table entry.2))]

def providerLines (table : LoadTable) (entry : ProviderEntry) : String :=
  let count := entry.services.length
  let status := statusText table entry.id
  s!"{entry.id} ({count} services, {status})\n  {entry.installHint}\n"

def providerDatum (table : LoadTable) (entry : ProviderEntry) : Datum :=
  .mapping [("id", .text entry.id.text), ("install_hint", .text entry.installHint),
    ("services", .sequence (entry.services.map fun service => .text service.text)),
    ("status", .text (statusText table entry.id))]

def jsonListing (rows : List Datum) : String :=
  Json.pretty (.sequence rows) ++ "\n"

def listServices (registry : Registry) (table : LoadTable) (json : Bool) : String :=
  let entries := registry.services.entries
  if json then jsonListing (entries.map (serviceDatum table))
  else String.join (entries.map (serviceLine table))

def listProviders (registry : Registry) (table : LoadTable) (json : Bool) : String :=
  let entries := registry.providers.values
  if json then jsonListing (entries.map (providerDatum table))
  else String.join (entries.map (providerLines table))

/-! ## Single services -/

def resolve [Matcher] (registry : Registry) (service : String) (table : LoadTable) : CommandResult :=
  match registry.lookup service with
  | .error failure => .failed failure table
  | .ok owner => .printed s!"{service} -> {owner}\n" table

def openedLine (style : CallStyle) (handle : Handle) : String :=
  let how := match style with
    | .blocking => ""
    | .awaited => " (async)"
  let capability := handle.capability.report
  s!"opened '{handle.service}' via '{handle.provider}'{how}: {capability}\n"

def create [Matcher] {m : Type → Type} [Monad m] (files : Files m) (routing : Routing)
    (service : String) (options : Options) (style : CallStyle) (table : LoadTable) :
    m CommandResult := do
  match routing.create style service options table with
  | (.error failure, created) => return .failed failure created
  | (.ok handle, created) =>
    match ← handle.check files with
    | .error failure => return .failed (.refused failure) created
    | .ok () => return .printed (openedLine style handle) created

def run [Matcher] {m : Type → Type} [Monad m] (files : Files m) (routing : Routing) (json : Bool)
    (table : LoadTable) : Command → m CommandResult
  | .services => return .printed (listServices routing.registry table json) table
  | .providers => return .printed (listProviders routing.registry table json) table
  | .resolve service => return resolve routing.registry service table
  | .create service options style =>
    create files routing service (Options.ofList options) style table

end CommandLine

end ServiceRouting
