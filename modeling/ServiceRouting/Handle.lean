import ServiceRouting.File.Access
import ServiceRouting.Options
import ServiceRouting.Service.Capability
import ServiceRouting.Text.Quoted

/-!
# Open services

A handle is what a provider returns for an opened service.  It keeps the option values that are
credentials apart from the others: a credential can be asked for, but its value never enters the
handle's report.  Some handles know a directory that must exist for the service to work.
-/

set_option autoImplicit false

namespace ServiceRouting

/-- A value that reports keep to themselves. -/
structure Secret where
  exposed : String
  deriving DecidableEq

structure Handle where
  service : ServiceName
  provider : ProviderId
  capability : Capability
  settings : SortedMap String String := .empty
  secrets : SortedMap String Secret := .empty
  /-- The directory to look for when the service is checked. -/
  probe : Option String := none
  deriving DecidableEq

namespace Handle

def withSetting (handle : Handle) (key value : String) : Handle :=
  { handle with settings := handle.settings.insert key value }

def withSecret (handle : Handle) (key value : String) : Handle :=
  { handle with secrets := handle.secrets.insert key ⟨value⟩ }

def withProbe (handle : Handle) (path : String) : Handle :=
  { handle with probe := some path }

/-! ## Checking -/

/-- A missing path and a refused one keep their kind; every other fault is unexpected. -/
def faultKind : FileFault → ErrorKind
  | .notFound => .notFound
  | .permissionDenied => .permissionDenied
  | _ => .unexpected

def atPath (handle : Handle) (error : ServiceError) (path : String) : ServiceError :=
  (error.within "service" handle.service.text).within "path" path

/-- What the file system's answer about the probed path means for the service. -/
def verdict (handle : Handle) (path : String) :
    Except FileFault Bool → Except ServiceError Unit
  | .ok true => .ok ()
  | .ok false =>
    .error (handle.atPath ⟨.notADirectory, "root is not a directory", []⟩ path)
  | .error fault =>
    .error (handle.atPath ⟨faultKind fault, fault.describe, []⟩ path)

/-- A handle without a directory to look for is always in order. -/
def check {m : Type → Type} [Monad m] (files : Files m) (handle : Handle) :
    m (Except ServiceError Unit) :=
  match handle.probe with
  | none => pure (.ok ())
  | some path => do
    let answer ← files.isDirectory path
    pure (handle.verdict path answer)

end Handle

/-! ## Reports -/

def Capability.report (capability : Capability) : String :=
  Quoted.record "Capability" <|
    capability.operations.map fun operation => (operation.1, toString operation.2)

def Secret.report (_ : Secret) : String :=
  "Secret([REDACTED alloc::string::String])"

/-- The report of a handle, with each secret shown in the given way. -/
def Handle.reportWith (shown : Secret → String) (handle : Handle) : String :=
  Quoted.record "ConfiguredHandle"
    [("service", Quoted.wrapped "ServiceName" (Quoted.encode handle.service.text)),
      ("provider", Quoted.wrapped "ProviderId" (Quoted.encode handle.provider.text)),
      ("capability", handle.capability.report),
      ("settings", Quoted.map (handle.settings.entries.map fun entry =>
        (entry.1, Quoted.encode entry.2))),
      ("secrets", Quoted.map (handle.secrets.entries.map fun entry =>
        (entry.1, shown entry.2))),
      ("probe", match handle.probe with
        | none => "None"
        | some path => Quoted.wrapped "LocalDir" (Quoted.encode path))]

def Handle.report (handle : Handle) : String :=
  handle.reportWith Secret.report

end ServiceRouting
