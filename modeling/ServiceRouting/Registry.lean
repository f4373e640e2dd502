import ServiceRouting.Failure
import ServiceRouting.Log
import ServiceRouting.Registry.Closest

/-!
# The registry of services

The registry says for every service which provider owns it, and keeps for every provider its
install hint and the services it claimed, in the order of their claims.  Registrations are taken in
one after the other; the first one that is at fault ends the work.
-/

set_option autoImplicit false

namespace ServiceRouting

structure ProviderEntry where
  id : ProviderId
  installHint : String
  services : List ServiceName
  deriving DecidableEq

structure Registry where
  services : SortedMap ServiceName ProviderId
  providers : SortedMap ProviderId ProviderEntry
  deriving DecidableEq

/-- What a provider asks for: names as they were written, and the hint for a missing provider. -/
structure Registration where
  id : String
  services : List String
  installHint : String
  deriving DecidableEq, Repr

namespace Registry

def empty : Registry := ⟨.empty, .empty⟩

/-! ## Look-ups -/

def owner? (registry : Registry) (service : String) : Option ProviderId :=
  registry.services.get? service

def suggestion? [Matcher] (registry : Registry) (query : String) : Option Suggestion :=
  Closest.closest? query <|
    registry.services.entries.map fun entry => (entry.1.text, ⟨entry.1, entry.2⟩)

/-- The provider that owns the service; an unknown name comes with the closest registered one. -/
def lookup [Matcher] (registry : Registry) (service : String) : Except RoutingError ProviderId :=
  if service = "" then .error (.invalidName .emptyService)
  else
    match registry.owner? service with
    | some owner => .ok owner
    | none => .error (.unknownService service (registry.suggestion? service))

def provider? (registry : Registry) (id : String) : Option ProviderEntry :=
  registry.providers.get? id

def installHint? (registry : Registry) (id : String) : Option String :=
  (registry.provider? id).map ProviderEntry.installHint

def size (registry : Registry) : Nat :=
  registry.services.size

def isEmpty (registry : Registry) : Bool :=
  registry.services.isEmpty

/-! ## Registration -/

/-- Adds one more name to those claimed so far.  A name that the provider holds or has just claimed
is passed over; one that another provider holds is a conflict. -/
def claim (registry : Registry) (id : ProviderId) (claimed : List ServiceName)
    (text : String) : Except RoutingError (List ServiceName) := do
  let name ← ServiceName.ofText text
  match registry.owner? name.text with
  | some owner =>
    if owner = id then .ok claimed else .error (.duplicateService name owner id)
  | none => .ok (if name ∈ claimed then claimed else claimed ++ [name])

/-- The names of one registration that are new, in their order. -/
def claims (registry : Registry) (id : ProviderId) (texts : List String) :
    Except RoutingError (List ServiceName) :=
  texts.foldlM (registry.claim id) []

/-- Gives the claimed services to the provider and replaces its hint. -/
def commit (registry : Registry) (id : ProviderId) (installHint : String)
    (claimed : List ServiceName) : Registry where
  services := claimed.foldl (fun services name => services.insert name id) registry.services
  providers :=
    let held := ((registry.provider? id.text).map ProviderEntry.services).getD []
    registry.providers.insert id ⟨id, installHint, held ++ claimed⟩

/-- Takes in one registration, all of it or nothing. -/
def register (registry : Registry) (registration : Registration) :
    Except RoutingError (Registry × LogRecord) := do
  let id ← ProviderId.ofText registration.id
  let claimed ← registry.claims id registration.services
  let note := s!"registering provider '{id}' with {claimed.length} service(s)"
  .ok (registry.commit id registration.installHint claimed, ⟨.debug, .registry, note⟩)

/-- The outcome of taking in a list of registrations. -/
structure Enrolment where
  /-- The registry, or the first failure with the position of the registration at fault. -/
  outcome : Except (RoutingError × Nat) Registry
  log : List LogRecord

def enrolFrom (registry : Registry) (log : List LogRecord) (position : Nat) :
    List Registration → Enrolment
  | [] => ⟨.ok registry, log⟩
  | registration :: rest =>
    match registry.register registration with
    | .error failure => ⟨.error (failure, position), log⟩
    | .ok (next, note) => next.enrolFrom (log ++ [note]) (position + 1) rest

def enrol (registrations : List Registration) : Enrolment :=
  empty.enrolFrom [] 0 registrations

end Registry

end ServiceRouting
