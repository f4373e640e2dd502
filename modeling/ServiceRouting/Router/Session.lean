import ServiceRouting.Router.Plan

/-!
# Sessions

A session is a run of operations on one registry and loader.  Its state is the loader's table and
the namespace that is bound at the moment.  Every operation is one of the requests below and gets
one answer.
-/

set_option autoImplicit false

namespace ServiceRouting

/-- Questions to the bound namespace. -/
inductive NamespaceRequest where
  | provider
  | names
  | version
  | exception (name : String)
  | has (name : String)
  | get (name : String) (type : SymbolType)
  | size
  | report
  /-- Whether the bound table, and a symbol of it, are the very ones its owner publishes. -/
  | identical (name : String)
  deriving DecidableEq, Repr

inductive Request where
  | lookup (service : String)
  | provider (id : String)
  | registeredHint (id : String)
  | providers
  | services
  | size
  | load (id : ProviderId)
  | status (id : ProviderId)
  | attempts (id : ProviderId)
  | installHint (id : ProviderId)
  | make (style : CallStyle) (id : ProviderId) (service : String) (options : Options)
  | create (style : CallStyle) (service : String) (options : Options)
  | bind (id : ProviderId)
  | shared (request : NamespaceRequest)

inductive NamespaceAnswer where
  | provider (id : ProviderId)
  | names (names : List String)
  | version (version : Option String)
  | exception (kind : Option ErrorKind)
  | has (present : Bool)
  | value (value : Option SymbolValue)
  | size (count : Nat) (empty : Bool)
  | report (text : String)
  | identical (table : Bool) (symbol : Option Bool)
  deriving DecidableEq

inductive Answer where
  | failed (failure : RoutingError)
  | owner (id : ProviderId)
  | provider (entry : Option ProviderEntry)
  | hint (hint : Option String)
  | providers (entries : List ProviderEntry)
  | services (owners : List (ServiceName × ProviderId))
  | size (count : Nat) (empty : Bool)
  | loaded (live : LoadedModule)
  | status (status : LoadStatus)
  | count (count : Nat)
  | handle (handle : Handle)
  | bound
  | shared (answer : NamespaceAnswer)
  /-- There is no namespace yet. -/
  | unbound

structure SessionState where
  table : LoadTable
  bound : Option Namespace

namespace Routing

/-! ## The bound namespace -/

/-- Compares what is bound with what the owner publishes; the owner is loaded for it. -/
def identical (routing : Routing) (space : Namespace) (name : String) (table : LoadTable) :
    NamespaceAnswer × LoadTable :=
  match routing.loader.load space.provider table with
  | (.ok live, loaded) =>
    match live.exports? with
    | some exports =>
      (.identical (exports.owner == space.exports.owner)
        (if exports.owner = space.exports.owner then
          SymbolTable.sameSymbol? exports.table space.exports.table name
        else none), loaded)
    | none => (.identical false none, loaded)
  | (.error _, loaded) => (.identical false none, loaded)

def askNamespace (routing : Routing) (space : Namespace) (table : LoadTable) :
    NamespaceRequest → NamespaceAnswer × LoadTable
  | .provider => (.provider space.provider, table)
  | .names => (.names space.names, table)
  | .version => (.version space.version?, table)
  | .exception name => (.exception (space.exception? name), table)
  | .has name => (.has (space.symbol? name).isSome, table)
  | .get name type => (.value (space.get? type name), table)
  | .size => (.size space.exports.table.size space.exports.table.isEmpty, table)
  | .report => (.report space.report, table)
  | .identical name => routing.identical space name table

/-! ## Operations -/

def answerHandle : Except RoutingError Handle → Answer
  | .ok handle => .handle handle
  | .error failure => .failed failure

def answer [Matcher] (routing : Routing) (state : SessionState) : Request → Answer × SessionState
  | .lookup service =>
    match routing.registry.lookup service with
    | .ok owner => (.owner owner, state)
    | .error failure => (.failed failure, state)
  | .provider id => (.provider (routing.registry.provider? id), state)
  | .registeredHint id => (.hint (routing.registry.installHint? id), state)
  | .providers => (.providers routing.registry.providers.values, state)
  | .services => (.services routing.registry.services.entries, state)
  | .size => (.size routing.registry.size routing.registry.isEmpty, state)
  | .load id =>
    match routing.loader.load id state.table with
    | (.ok live, table) => (.loaded live, { state with table := table })
    | (.error failure, table) =>
      (.failed (.providerUnavailable failure), { state with table := table })
  | .status id => (.status (state.table.status id), state)
  | .attempts id => (.count (state.table.attempts id), state)
  | .installHint id => (.hint (some (routing.loader.installHint id)), state)
  | .make style id service options =>
    let made := routing.make style id service options state.table
    (answerHandle made.1, { state with table := made.2 })
  | .create style service options =>
    let made := routing.create style service options state.table
    (answerHandle made.1, { state with table := made.2 })
  | .bind id =>
    match Namespace.bind routing.loader id state.table with
    | (.ok space, table) => (.bound, ⟨table, some space⟩)
    | (.error failure, table) => (.failed failure, { state with table := table })
  | .shared request =>
    match state.bound with
    | none => (.unbound, state)
    | some space =>
      let asked := routing.askNamespace space state.table request
      (.shared asked.1, { state with table := asked.2 })

/-- The answers to a list of requests, each asked in the state that the one before it left. -/
def run [Matcher] (routing : Routing) (state : SessionState) :
    List Request → List Answer × SessionState
  | [] => ([], state)
  | request :: rest =>
    let first := routing.answer state request
    let later := routing.run first.2 rest
    (first.1 :: later.1, later.2)

end Routing

/-- The state in which a built router starts. -/
def Router.start (router : Router) (table : LoadTable) : SessionState :=
  ⟨table, some router.shared⟩

end ServiceRouting
