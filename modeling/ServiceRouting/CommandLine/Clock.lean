import ServiceRouting.CommandLine.Program

/-!
# Time stamps

A log line begins with the time at which it is written, in universal time down to milliseconds.
Days are counted from the first of March of the year zero, so that the day that leap years add is
the last one of a year.
-/

set_option autoImplicit false

namespace ServiceRouting

namespace CommandLine

structure CalendarDay where
  year : Nat
  month : Nat
  day : Nat
  deriving DecidableEq, Repr

/-- Days from the first of March of the year zero to the first of January 1970. -/
def daysBefore1970 : Nat := 719468

/-- Days in four hundred years, after which the calendar repeats itself. -/
def daysInCycle : Nat := 146097

/-- The years of a cycle that are over after some of its days. -/
def yearOfCycle (days : Nat) : Nat :=
  (days - days / 1460 + days / 36524 - days / 146096) / 365

/-- The day of the calendar that comes some days after the first of January 1970. -/
def CalendarDay.after (days : Nat) : CalendarDay :=
  let shifted := days + daysBefore1970
  let inCycle := shifted % daysInCycle
  let year := yearOfCycle inCycle
  let inYear := inCycle - (365 * year + year / 4 - year / 100)
  let monthFromMarch := (5 * inYear + 2) / 153
  let month := if monthFromMarch < 10 then monthFromMarch + 3 else monthFromMarch - 9
  { year := shifted / daysInCycle * 400 + year + if month ≤ 2 then 1 else 0
    month := month
    day := inYear - (153 * monthFromMarch + 2) / 5 + 1 }

def padded (width number : Nat) : String :=
  let digits := Nat.toDigits 10 number
  String.ofList (List.replicate (width - digits.length) '0' ++ digits)

/-- The time that is some milliseconds after the start of 1970. -/
def timeStamp (milliseconds : Nat) : String :=
  let seconds := milliseconds / 1000
  let day := CalendarDay.after (seconds / 86400)
  padded 4 day.year ++ "-" ++ padded 2 day.month ++ "-" ++ padded 2 day.day ++ "T" ++
    padded 2 (seconds / 3600 % 24) ++ ":" ++ padded 2 (seconds / 60 % 60) ++ ":" ++
    padded 2 (seconds % 60) ++ "." ++ padded 3 (milliseconds % 1000) ++ "Z"

/-- What a notice adds to the side output at some time. -/
def Notice.textAt (milliseconds : Nat) (notice : Notice) : String :=
  notice.text (timeStamp milliseconds ++ " ")

end CommandLine

end ServiceRouting
