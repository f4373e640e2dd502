import ServiceRouting.Text.Quoted

/-!
# Data values

The values in which settings and shared records are exchanged, whatever the notation they are
written in, and the short texts by which a value is named in a complaint.
-/

set_option autoImplicit false

namespace ServiceRouting

inductive Datum where
  | null
  | truth (value : Bool)
  | integer (value : Int)
  /-- A number that is not written as a whole one, as its notation shows it. -/
  | decimal (shown : String)
  | text (value : String)
  | sequence (items : List Datum)
  /-- Fields in the order in which they are visited. -/
  | mapping (fields : List (String × Datum))
  deriving Inhabited

/-- A name in backquotes. -/
def backquoted (name : String) : String :=
  "`" ++ name ++ "`"

namespace Datum

/-- Scalars are named with their value, collections by their kind alone. -/
def describe : Datum → String
  | null => "null"
  | truth value => "boolean " ++ backquoted (toString value)
  | integer value => "integer " ++ backquoted (toString value)
  | decimal shown => "floating point " ++ backquoted shown
  | text value => "string " ++ Quoted.encode value
  | sequence _ => "sequence"
  | mapping _ => "map"

end Datum

end ServiceRouting
