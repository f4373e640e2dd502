/-!
# Log records

What the routing layer notes about its work.  A record names the component that wrote it by the
target under which the component's records are filtered.
-/

set_option autoImplicit false

namespace ServiceRouting

inductive LogLevel where
  | error
  | warn
  | info
  | debug
  | trace
  deriving DecidableEq, Repr

namespace LogLevel

def name : LogLevel → String
  | error => "ERROR"
  | warn => "WARN"
  | info => "INFO"
  | debug => "DEBUG"
  | trace => "TRACE"

/-- The more is written at a level, the higher its rank. -/
def rank : LogLevel → Nat
  | error => 1
  | warn => 2
  | info => 3
  | debug => 4
  | trace => 5

end LogLevel

inductive Component where
  | registry
  | loader
  | router
  | assembly
  | namespaces
  | tables
  | program
  deriving DecidableEq, Repr

def Component.target : Component → String
  | registry => "capability_router::registry"
  | loader => "capability_router::loader"
  | router => "capability_router::router"
  | assembly => "capability_router::router::builder"
  | namespaces => "capability_router::compat"
  | tables => "capability_router::provider::table"
  | program => "caprouter"

structure LogRecord where
  level : LogLevel
  component : Component
  message : String
  deriving DecidableEq, Repr

def LogRecord.line (record : LogRecord) : String :=
  record.level.name ++ " " ++ record.component.target ++ ": " ++ record.message

end ServiceRouting
