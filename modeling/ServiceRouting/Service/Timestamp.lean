/-!
# Points in time

A point in time is a whole number of seconds from the start of 1970, which may be negative, and a
number of nanoseconds below one second that is always counted forwards.
-/

set_option autoImplicit false

namespace ServiceRouting

structure Timestamp where
  seconds : Int
  nanos : Nat
  nanos_lt : nanos < 1000000000
  deriving DecidableEq, Repr

namespace Timestamp

/-- Nanoseconds of a second or more are carried into the seconds. -/
def ofParts (seconds : Int) (nanos : Nat) : Timestamp where
  seconds := seconds + (nanos / 1000000000 : Nat)
  nanos := nanos % 1000000000
  nanos_lt := Nat.mod_lt _ (by decide)

/-- The distance from the start of 1970, for a time that is not before it. -/
def sinceEpoch? (time : Timestamp) : Option (Nat × Nat) :=
  if time.seconds < 0 then none else some (time.seconds.toNat, time.nanos)

end Timestamp

end ServiceRouting
