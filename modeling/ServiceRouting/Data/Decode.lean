import ServiceRouting.Data.Value

/-!
# Reading data values

A value is read as a text, a truth value, a whole number, a member of a list of names or a record.
Where it does not fit, the reading stops at the first misfit and says where it is and what is wrong
there.  A record is written as a mapping, whose fields are visited in their order, or as a sequence
of the fields' values.
-/

set_option autoImplicit false

namespace ServiceRouting

/-! ## Misfits -/

/-- One step into a value. -/
inductive DataStep where
  | field (name : String)
  | item (index : Nat)
  deriving DecidableEq, Repr

inductive MisfitCause where
  | wrongType (found expected : String)
  | wrongValue (found expected : String)
  | wrongLength (length : Nat) (expected : String)
  | unknownVariant (name : String) (known : List String)
  | unknownField (name : String) (known : List String)
  | missingField (name : String)
  | refused (reason : String)
  deriving DecidableEq, Repr

/-- A misfit and the way to it from the outermost value. -/
structure Misfit where
  path : List DataStep := []
  cause : MisfitCause
  deriving DecidableEq, Repr

/-- Names to choose from, as they stand in a sentence. -/
def choice (names : List String) : String :=
  match names.map backquoted with
  | [] => "nothing"
  | [one] => one
  | [one, other] => one ++ " or " ++ other
  | several => "one of " ++ ", ".intercalate several

def MisfitCause.describe : MisfitCause → String
  | wrongType found expected => s!"invalid type: {found}, expected {expected}"
  | wrongValue found expected => s!"invalid value: {found}, expected {expected}"
  | wrongLength length expected => s!"invalid length {length}, expected {expected}"
  | unknownVariant name known =>
    "unknown variant " ++ backquoted name ++ ", expected " ++ choice known
  | unknownField name known =>
    "unknown field " ++ backquoted name ++ ", expected " ++ choice known
  | missingField name => "missing field " ++ backquoted name
  | refused reason => reason

abbrev Decoded (Result : Type) := Except Misfit Result

namespace Decoded

def misfit {Result : Type} (cause : MisfitCause) : Decoded Result :=
  .error { cause := cause }

/-- Leads the way to a misfit through one more step. -/
def within {Result : Type} (step : DataStep) : Decoded Result → Decoded Result
  | .ok result => .ok result
  | .error fault => .error { fault with path := step :: fault.path }

end Decoded

/-- What sets one notation apart from another. -/
structure DataRules where
  /-- A sequence for a record may hold more values than the record has fields. -/
  surplusAllowed : Bool
  deriving DecidableEq, Repr

/-! ## Scalars -/

namespace Datum

def wrongType {Result : Type} (datum : Datum) (expected : String) : Decoded Result :=
  Decoded.misfit (.wrongType datum.describe expected)

def asText : Datum → Decoded String
  | text value => .ok value
  | other => other.wrongType "a string"

def asTruth : Datum → Decoded Bool
  | truth value => .ok value
  | other => other.wrongType "a boolean"

/-- A whole number from zero up to a limit that is not reached. -/
def asBelow (limit : Nat) (expected : String) : Datum → Decoded Nat
  | integer value =>
    if 0 ≤ value ∧ value < limit then .ok value.toNat
    else Decoded.misfit (.wrongValue (describe (integer value)) expected)
  | other => other.wrongType expected

def asOptional {Result : Type} (read : Datum → Decoded Result) :
    Datum → Decoded (Option Result)
  | null => .ok none
  | other => (read other).map some

/-- A member of a list of names, alone or as the only key of a mapping to nothing. -/
def asVariant (known : List String) : Datum → Decoded String
  | text name => variant name
  | mapping [(name, content)] => do
    let found ← variant name
    match content with
    | null => .ok found
    | other => other.wrongType "unit"
  | mapping fields => Decoded.misfit
      (.wrongValue (describe (mapping fields)) "map with a single key")
  | other => other.wrongType "string or map"
where
  variant (name : String) : Decoded String :=
    if name ∈ known then .ok name else Decoded.misfit (.unknownVariant name known)

/-- A mapping from texts to values of one kind, read in the order of the fields. -/
def asMap {Result : Type} (read : Datum → Decoded Result) :
    Datum → Decoded (List (String × Result))
  | mapping fields => fields.mapM fun field => do
    let value ← (read field.2).within (.field field.1)
    .ok (field.1, value)
  | other => other.wrongType "a map"

end Datum

/-! ## Records -/

/-- How a record is read: every field adds its value to what has been gathered. -/
structure RecordShape (Gathered Result : Type) where
  name : String
  fields : List (String × (Datum → Gathered → Decoded Gathered))
  start : Gathered
  finish : Gathered → Decoded Result
  /-- What a sequence that is too short is told; nothing if missing values have a default. -/
  tooShort : Option String
  /-- Fields outside the list are an error. -/
  closed : Bool := false

namespace RecordShape

variable {Gathered Result : Type}

def visit (shape : RecordShape Gathered Result) (gathered : Gathered)
    (entry : String × Datum) : Decoded Gathered :=
  match shape.fields.lookup entry.1 with
  | some read => (read entry.2 gathered).within (.field entry.1)
  | none =>
    if shape.closed then
      Decoded.misfit (.unknownField entry.1 (shape.fields.map Prod.fst))
    else .ok gathered

/-- Gives the values of a sequence to the fields one by one. -/
def fill (tooShort : Option String) (index : Nat) (gathered : Gathered) :
    List (String × (Datum → Gathered → Decoded Gathered)) → List Datum → Decoded Gathered
  | [], _ => .ok gathered
  | _ :: _, [] =>
    match tooShort with
    | some expected => Decoded.misfit (.wrongLength index expected)
    | none => .ok gathered
  | field :: fields, value :: values => do
    let next ← (field.2 value gathered).within (.item index)
    fill tooShort (index + 1) next fields values

def read (rules : DataRules) (shape : RecordShape Gathered Result) : Datum → Decoded Result
  | .mapping entries => do
    let gathered ← entries.foldlM shape.visit shape.start
    shape.finish gathered
  | .sequence values => do
    let gathered ← fill shape.tooShort 0 shape.start shape.fields values
    let result ← shape.finish gathered
    if shape.fields.length < values.length ∧ ¬ rules.surplusAllowed then
      Decoded.misfit (.wrongLength values.length "fewer elements in array")
    else .ok result
  | other => other.wrongType ("struct " ++ shape.name)

/-- A field that must have been gathered. -/
def demand {Value : Type} (name : String) : Option Value → Decoded Value
  | some value => .ok value
  | none => Decoded.misfit (.missingField name)

end RecordShape

end ServiceRouting
