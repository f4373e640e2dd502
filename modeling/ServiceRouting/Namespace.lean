import ServiceRouting.Loader

/-!
# The namespace of shared symbols

The symbols that the primary provider publishes, bound once and read under their flat names.  The
namespace holds the provider's own table, not a copy: which loaded module a table came from is part
of what is bound.
-/

set_option autoImplicit false

namespace ServiceRouting

/-- A symbol table together with the serial number of the loaded module that publishes it. -/
structure PublishedTable where
  owner : Nat
  table : SymbolTable
  deriving DecidableEq

def LoadedModule.exports? (live : LoadedModule) : Option PublishedTable :=
  live.content.exports.map fun table => ⟨live.serial, table⟩

structure Namespace where
  provider : ProviderId
  exports : PublishedTable
  deriving DecidableEq

namespace Namespace

def unpublishedHint (id : ProviderId) : String :=
  s!"provider '{id}' does not publish shared symbols"

/-- Loads the provider and takes its symbols; a provider that cannot be loaded or publishes nothing
is missing. -/
def bind (loader : Loader) (primary : ProviderId) (table : LoadTable) :
    Except RoutingError Namespace × LoadTable :=
  match loader.load primary table with
  | (.error failure, loaded) =>
    (.error (.primaryMissing primary failure.installHint (some failure.reason)), loaded)
  | (.ok live, loaded) =>
    match live.exports? with
    | none => (.error (.primaryMissing primary (unpublishedHint primary) none), loaded)
    | some exports =>
      let count := exports.table.size
      (.ok ⟨primary, exports⟩,
        loaded.note .debug .namespaces s!"bound {count} shared symbol(s) from '{primary}'")

def names (space : Namespace) : List String :=
  space.exports.table.names

def symbol? (space : Namespace) (name : String) : Option PublishedSymbol :=
  space.exports.table.symbol? name

def get? (space : Namespace) (type : SymbolType) (name : String) : Option SymbolValue :=
  space.exports.table.get? type name

/-- The kind of failure that was known under the name, if the published kinds contain it. -/
def exception? (space : Namespace) (name : String) : Option ErrorKind :=
  match space.get? .errorKinds SharedSymbols.exceptions with
  | some (.errorKinds kinds) => ErrorKind.named? kinds name
  | _ => none

def version? (space : Namespace) : Option String :=
  match space.get? .fixedText SharedSymbols.version with
  | some (.fixedText version) => some version
  | _ => none

def report (space : Namespace) : String :=
  Quoted.record "Namespace"
    [("provider_id", Quoted.wrapped "ProviderId" (Quoted.encode space.provider.text)),
      ("exports", space.exports.table.report)]

end Namespace

end ServiceRouting
