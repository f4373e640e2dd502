import ServiceRouting.Handle
import ServiceRouting.Log
import ServiceRouting.Symbols

/-!
# Provider modules

A module is code that routing does not know.  It is asked who it is, which interface version it
speaks and which services it has, and any of these questions may end in a panic instead of an
answer.  It opens services, and it may publish symbols.
-/

set_option autoImplicit false

namespace ServiceRouting

/-- The interface version that a module must speak to be loadable. -/
def interfaceVersion : UInt32 := 1

/-! ## Questions that may end in a panic -/

/-- What a panic leaves behind: a text, or a value that is none. -/
inductive PanicPayload where
  | text (message : String)
  | untold
  deriving DecidableEq, Repr

def PanicPayload.describe : PanicPayload → String
  | text message => message
  | untold => "unknown cause"

inductive Reply (Answer : Type) where
  | answered (answer : Answer)
  | panicked (payload : PanicPayload)
  deriving DecidableEq, Repr

/-! ## Modules -/

/-- Whether the caller waits for the handle or awaits it. -/
inductive CallStyle where
  | blocking
  | awaited
  deriving DecidableEq, Repr

/-- The outcome of opening a service, with the records the module wrote. -/
structure Construction where
  outcome : Except ServiceError Handle
  log : List LogRecord

/-- The questions of a load may end in a panic.  Nothing catches a panic of the other two, `construct`
and `exports`: they are those of modules that return from them. -/
structure Module where
  id : Reply ProviderId
  /-- What it answers when it is asked once more who it is. -/
  idAgain : Reply ProviderId := id
  version : Reply UInt32
  services : Reply (List String)
  construct : CallStyle → ServiceName → Options → Construction
  exports : Option SymbolTable

end ServiceRouting
