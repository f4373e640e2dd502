import ServiceRouting.Source

/-!
# Loading modules

The loader turns provider ids into live modules, at most once for each id.  Its table has a slot
for every id that was asked for; a slot is filled by the first load and never changes again, so a
failure is final and a later load answers from the slot.  A panic counts as a failure.

One load of a new id is three steps: the attempt is counted, the source is asked and its answer
examined, and the slot is settled.  The table keeps the trace of all that happened.
-/

set_option autoImplicit false

namespace ServiceRouting

/-! ## Slots -/

/-- A module that was loaded, with the serial number of the opening that brought it. -/
structure LoadedModule where
  serial : Nat
  content : Module

inductive LoadState where
  | notAttempted
  | loaded (live : LoadedModule)
  | failed (failure : Unavailable)

structure Slot where
  attempts : Nat := 0
  state : LoadState := .notAttempted

/-- The progress of a load, without the module. -/
inductive LoadStatus where
  | notAttempted
  | loaded
  | failed (failure : Unavailable)
  deriving DecidableEq

def LoadState.status : LoadState → LoadStatus
  | notAttempted => .notAttempted
  | loaded _ => .loaded
  | failed failure => .failed failure

def LoadStatus.describe : LoadStatus → String
  | notAttempted => "not loaded"
  | loaded => "loaded"
  | failed failure =>
    let reason := failure.reason.describe
    s!"unavailable ({reason})"

/-! ## The table and its trace -/

inductive Event where
  | noted (record : LogRecord)
  /-- The source was asked to open a provider. -/
  | opened (id : ProviderId)
  /-- A module, here by the id it gives itself, was asked to construct a service. -/
  | constructing (module : Reply ProviderId) (service : ServiceName)
  deriving DecidableEq

structure LoadTable where
  slots : SortedMap ProviderId Slot
  trace : List Event

namespace LoadTable

def empty : LoadTable := ⟨.empty, []⟩

def slot (table : LoadTable) (id : ProviderId) : Slot :=
  (table.slots.get? id.text).getD {}

def status (table : LoadTable) (id : ProviderId) : LoadStatus :=
  (table.slot id).state.status

def attempts (table : LoadTable) (id : ProviderId) : Nat :=
  (table.slot id).attempts

def opened (table : LoadTable) : List ProviderId :=
  table.trace.filterMap fun event =>
    match event with
    | .opened id => some id
    | _ => none

def log (table : LoadTable) : List LogRecord :=
  table.trace.filterMap fun event =>
    match event with
    | .noted record => some record
    | _ => none

def record (table : LoadTable) (events : List Event) : LoadTable :=
  { table with trace := table.trace ++ events }

def note (table : LoadTable) (level : LogLevel) (component : Component) (message : String) :
    LoadTable :=
  table.record [.noted ⟨level, component, message⟩]

/-- Counts an attempt; the slot has no outcome yet. -/
def begin (table : LoadTable) (id : ProviderId) : LoadTable :=
  let slot := table.slot id
  let counted := table.slots.insert id { slot with attempts := slot.attempts + 1 }
  ({ table with slots := counted }).note .debug .loader s!"loading provider module '{id}'"

def settle (table : LoadTable) (id : ProviderId) (state : LoadState) : LoadTable :=
  { table with slots := table.slots.insert id { table.slot id with state := state } }

end LoadTable

/-! ## The loader -/

structure Loader where
  source : Source
  /-- What the registry knows of each provider: its hint and the services it is to offer. -/
  known : SortedMap ProviderId ProviderEntry

/-- The hint for a provider that was never registered.  A registered one keeps its hint, even an empty
one. -/
def defaultInstallHint (id : String) : String :=
  s!"install the '{id}' capability package to use this service"

/-- What came of opening a module, with the services it offers beyond those it should. -/
structure Examination where
  outcome : Except LoadFailure Module
  unlisted : List String

namespace Loader

def ofRegistry (source : Source) (registry : Registry) : Loader :=
  ⟨source, registry.providers⟩

def installHint (loader : Loader) (id : ProviderId) : String :=
  match loader.known.get? id.text with
  | some entry => entry.installHint
  | none => defaultInstallHint id.text

/-! ## Examining what the source answers -/

def panicFailure (payload : PanicPayload) : LoadFailure :=
  .initialization ("initialization panicked: " ++ payload.describe)

def rejected (reason : LoadFailure) : Examination :=
  ⟨.error reason, []⟩

/-- A module of the right id and version is asked for its services only if its provider is known.
-/
def examineServices (loader : Loader) (id : ProviderId) (candidate : Module) : Examination :=
  match loader.known.get? id.text with
  | none => ⟨.ok candidate, []⟩
  | some entry =>
    match candidate.services with
    | .panicked payload => rejected (panicFailure payload)
    | .answered names =>
      ⟨.ok candidate, names.filter fun name => name ∉ entry.services.map ServiceName.text⟩

def examineVersion (loader : Loader) (id : ProviderId) (candidate : Module) : Examination :=
  match candidate.version with
  | .panicked payload => rejected (panicFailure payload)
  | .answered version =>
    if version = interfaceVersion then loader.examineServices id candidate
    else rejected (.incompatibleVersion interfaceVersion version)

/-- The id is checked before the version, and both before the services.  A module that gives another id
is asked for it once more, and its second answer is the one that is told. -/
def examine (loader : Loader) (id : ProviderId) : Opening → Examination
  | .panicked payload => rejected (panicFailure payload)
  | .answered (.error reason) => rejected reason
  | .answered (.ok candidate) =>
    match candidate.id with
    | .panicked payload => rejected (panicFailure payload)
    | .answered found =>
      if found = id then loader.examineVersion id candidate
      else
        match candidate.idAgain with
        | .panicked payload => rejected (panicFailure payload)
        | .answered told => rejected (.idMismatch id.text told.text)

/-! ## Loading -/

def unlistedWarning (id : ProviderId) (service : String) : Event :=
  .noted ⟨.warn, .loader,
    s!"provider '{id}' offers '{service}', which its manifest does not list"⟩

/-- Asks the source for the module and examines its answer. -/
def openModule (loader : Loader) (id : ProviderId) (table : LoadTable) :
    Except LoadFailure Module × LoadTable :=
  let examination := loader.examine id (loader.source.answer table.opened id)
  (examination.outcome,
    table.record (.opened id :: examination.unlisted.map (unlistedWarning id)))

/-- Turns the outcome of an opening into the answer of the load, which the slot keeps. -/
def conclude (loader : Loader) (id : ProviderId) (serial : Nat)
    (outcome : Except LoadFailure Module) (table : LoadTable) :
    Except Unavailable LoadedModule × LoadTable :=
  match outcome with
  | .ok content =>
    let live : LoadedModule := ⟨serial, content⟩
    let noted := table.note .info .loader s!"provider module '{id}' loaded"
    (.ok live, noted.settle id (.loaded live))
  | .error reason =>
    let failure : Unavailable := ⟨id, loader.installHint id, reason⟩
    let why := reason.describe
    let noted := table.note .warn .loader s!"provider module '{id}' failed to load: {why}"
    (.error failure, noted.settle id (.failed failure))

/-- The first load of an id. -/
def attempt (loader : Loader) (id : ProviderId) (table : LoadTable) :
    Except Unavailable LoadedModule × LoadTable :=
  let begun := table.begin id
  let opening := loader.openModule id begun
  loader.conclude id begun.opened.length opening.1 opening.2

def load (loader : Loader) (id : ProviderId) (table : LoadTable) :
    Except Unavailable LoadedModule × LoadTable :=
  match (table.slot id).state with
  | .loaded live => (.ok live, table)
  | .failed failure => (.error failure, table)
  | .notAttempted => loader.attempt id table

end Loader

end ServiceRouting
