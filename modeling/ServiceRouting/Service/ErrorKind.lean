/-!
# Kinds of failure that a service reports

Every kind has one name, which serves as its display text, as the name under which it is published
among the shared symbols, and as its form in exchanged data.
-/

set_option autoImplicit false

namespace ServiceRouting

inductive ErrorKind where
  | unexpected
  | unsupported
  | configInvalid
  | notFound
  | permissionDenied
  | isADirectory
  | notADirectory
  | alreadyExists
  | rateLimited
  | conditionNotMatch
  deriving DecidableEq, Repr

namespace ErrorKind

/-- Every kind, in the order in which the kinds are published. -/
def all : List ErrorKind :=
  [unexpected, unsupported, configInvalid, notFound, permissionDenied, isADirectory,
    notADirectory, alreadyExists, rateLimited, conditionNotMatch]

def name : ErrorKind → String
  | unexpected => "Unexpected"
  | unsupported => "Unsupported"
  | configInvalid => "ConfigInvalid"
  | notFound => "NotFound"
  | permissionDenied => "PermissionDenied"
  | isADirectory => "IsADirectory"
  | notADirectory => "NotADirectory"
  | alreadyExists => "AlreadyExists"
  | rateLimited => "RateLimited"
  | conditionNotMatch => "ConditionNotMatch"

instance : ToString ErrorKind := ⟨name⟩

/-- The first kind of the list that carries the name. -/
def named? (kinds : List ErrorKind) (text : String) : Option ErrorKind :=
  kinds.find? fun kind => kind.name == text

end ErrorKind

end ServiceRouting
