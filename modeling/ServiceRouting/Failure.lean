import ServiceRouting.Name
import ServiceRouting.Service.Error

/-!
# Failures of routing

A request can fail because its name is wrong, because nobody offers the service, because the
provider that does cannot be loaded, or because the provider itself refuses it.  Each cause is a
constructor and carries what its text needs; the texts are given by the functions `describe`.
-/

set_option autoImplicit false

namespace ServiceRouting

/-! ## Loading -/

/-- Why a provider's module could not be turned into a live instance. -/
inductive LoadFailure where
  | notInstalled
  | initialization (message : String)
  | incompatibleVersion (expected found : UInt32)
  | idMismatch (expected found : String)
  deriving DecidableEq, Repr

def LoadFailure.describe : LoadFailure → String
  | notInstalled => "module is not installed"
  | initialization message => "initialization failed: " ++ message
  | incompatibleVersion expected found =>
    s!"incompatible module version: expected {expected}, found {found}"
  | idMismatch expected found =>
    s!"module identifies itself as '{found}', expected '{expected}'"

/-- A provider that could not be loaded, with what to do about it. -/
structure Unavailable where
  provider : ProviderId
  installHint : String
  reason : LoadFailure
  deriving DecidableEq

def Unavailable.describe (failure : Unavailable) : String :=
  let reason := failure.reason.describe
  s!"provider '{failure.provider}' is unavailable ({reason}): {failure.installHint}"

/-! ## Names and configuration -/

inductive NameFault where
  | emptyService
  | emptyProvider
  | other (detail : String)
  deriving DecidableEq, Repr

def NameFault.describe : NameFault → String
  | emptyService => "service name cannot be empty"
  | emptyProvider => "provider id cannot be empty"
  | other detail => detail

inductive ConfigFault where
  | noProviders
  | noHome
  | unreadable (path problem : String)
  /-- The text is not TOML at all.  What the reader of TOML says of the place is left out. -/
  | malformed
  /-- The text is TOML but holds a value of the wrong kind. -/
  | misfit (report : String)
  | other (detail : String)
  deriving DecidableEq, Repr

def ConfigFault.describe : ConfigFault → String
  | noProviders => "no providers registered"
  | noHome => "missing home directory"
  | unreadable path problem => s!"cannot read {path}: {problem}"
  | malformed => "TOML parse error"
  | misfit report => report
  | other detail => detail

/-! ## Routing -/

/-- A registered service that resembles the one asked for. -/
structure Suggestion where
  service : ServiceName
  provider : ProviderId
  deriving DecidableEq

inductive RoutingError where
  /-- Two providers claim one service. -/
  | duplicateService (service : ServiceName) (existing conflicting : ProviderId)
  /-- No registered provider claims the service. -/
  | unknownService (service : String) (suggestion : Option Suggestion)
  | providerUnavailable (failure : Unavailable)
  /-- The provider of the shared symbols is missing; without a reason it was loaded but publishes
  nothing. -/
  | primaryMissing (provider : ProviderId) (installHint : String) (reason : Option LoadFailure)
  | invalidName (fault : NameFault)
  | config (fault : ConfigFault)
  /-- The provider's own failure, passed on as it is. -/
  | refused (error : ServiceError)
  deriving DecidableEq

def Suggestion.describe (suggestion : Suggestion) : String :=
  s!"; did you mean '{suggestion.service}' (provided by '{suggestion.provider}')?"

def RoutingError.describe : RoutingError → String
  | duplicateService service existing conflicting =>
    s!"service '{service}' is claimed by both '{existing}' and '{conflicting}'"
  | unknownService service suggestion =>
    s!"unknown service '{service}'" ++ (suggestion.map Suggestion.describe).getD ""
  | providerUnavailable failure => failure.describe
  | primaryMissing provider installHint reason =>
    let why := (reason.map fun failure => " (" ++ failure.describe ++ ")").getD ""
    s!"primary provider '{provider}' is missing{why}: {installHint}"
  | invalidName fault => "invalid name: " ++ fault.describe
  | config fault => "config error: " ++ fault.describe
  | refused error => error.describe

/-! ## Names that are refused -/

def ServiceName.ofText (text : String) : Except RoutingError ServiceName :=
  match ServiceName.ofText? text with
  | some name => .ok name
  | none => .error (.invalidName .emptyService)

def ProviderId.ofText (text : String) : Except RoutingError ProviderId :=
  match ProviderId.ofText? text with
  | some id => .ok id
  | none => .error (.invalidName .emptyProvider)

end ServiceRouting
