import ServiceRouting.Service.ErrorKind

/-!
# Failures of a service

A failure that a provider reports while it opens or probes a service: a kind, a message and the
circumstances, as pairs in the order in which they were noted.
-/

set_option autoImplicit false

namespace ServiceRouting

structure ServiceError where
  kind : ErrorKind
  message : String
  context : List (String × String) := []
  deriving DecidableEq, Repr

namespace ServiceError

/-- Notes one more circumstance, after those already there. -/
def within (error : ServiceError) (key value : String) : ServiceError :=
  { error with context := error.context ++ [(key, value)] }

/-- The value of the first circumstance noted under `key`. -/
def contextValue? (error : ServiceError) (key : String) : Option String :=
  error.context.lookup key

/-- Circumstances stand in round brackets after the message; without any there are no brackets. -/
def describe (error : ServiceError) : String :=
  let circumstances :=
    match error.context with
    | [] => ""
    | pairs => " (" ++ ", ".intercalate (pairs.map fun pair => pair.1 ++ "=" ++ pair.2) ++ ")"
  error.kind.name ++ ": " ++ error.message ++ circumstances

end ServiceError

end ServiceRouting
