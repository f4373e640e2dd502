import ServiceRouting.Module

/-!
# Providers described by tables

A table provider has a list of services, each with the option keys that must be given, those whose
values are credentials, and possibly the key of a directory to look for.  Of two services with one
name the first counts.
-/

set_option autoImplicit false

namespace ServiceRouting

structure ServiceSpec where
  name : String
  capability : Capability := .full
  /-- Option keys that must be given a value other than the empty text. -/
  required : List String := []
  /-- Option keys whose values are credentials. -/
  secrets : List String := []
  /-- The option key that names a directory to look for. -/
  probeKey : Option String := none
  deriving DecidableEq, Repr

structure TableProvider where
  id : ProviderId
  specs : List ServiceSpec
  exports : Option SymbolTable := none
  deriving DecidableEq

namespace TableProvider

def spec? (provider : TableProvider) (service : String) : Option ServiceSpec :=
  provider.specs.find? fun spec => spec.name == service

/-- The first required key, in the order of the table, that the options do not provide. -/
def missing? (spec : ServiceSpec) (options : Options) : Option String :=
  spec.required.find? fun key => !options.provides key

/-- Puts one option on its side of the handle. -/
def placeOption (spec : ServiceSpec) (handle : Handle) (pair : String × String) : Handle :=
  if pair.1 ∈ spec.secrets then handle.withSecret pair.1 pair.2
  else handle.withSetting pair.1 pair.2

def bare (provider : TableProvider) (service : ServiceName) (spec : ServiceSpec) : Handle where
  service := service
  provider := provider.id
  capability := spec.capability

/-- The handle of a service whose required options are all provided. -/
def assemble (provider : TableProvider) (service : ServiceName) (spec : ServiceSpec)
    (options : Options) : Handle :=
  let filled := options.toList.foldl (placeOption spec) (provider.bare service spec)
  match spec.probeKey.bind options.get? with
  | some path => filled.withProbe path
  | none => filled

def configure (provider : TableProvider) (service : ServiceName) (options : Options) :
    Except ServiceError Handle :=
  match provider.spec? service.text with
  | none =>
    let refusal : ServiceError := ⟨.unsupported, s!"service '{service}' is not provided here", []⟩
    .error (refusal.within "provider" provider.id.text)
  | some spec => do
    spec.required.forM fun key => discard (options.require service.text key)
    .ok (provider.assemble service spec options)

def construct (provider : TableProvider) (service : ServiceName) (options : Options) :
    Construction :=
  match provider.configure service options with
  | .error failure => ⟨.error failure, []⟩
  | .ok handle =>
    let note := s!"{provider.id} configured '{service}' with {options.size} option(s)"
    ⟨.ok handle, [⟨.debug, .tables, note⟩]⟩

/-- The provider as a module; both styles of call construct the same way. -/
def asModule (provider : TableProvider) : Module where
  id := .answered provider.id
  version := .answered interfaceVersion
  services := .answered (provider.specs.map ServiceSpec.name)
  construct := fun _ => provider.construct
  exports := provider.exports

end TableProvider

end ServiceRouting
