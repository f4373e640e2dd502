import ServiceRouting.Toml.Lexical

/-!
# Dates and times

A moment is a date, a time of day or both, and with both there may be a distance from universal
time.  It is kept as its text, in one form: digits as they were given, a capital `T` between date
and time, fractions of a second down to nanoseconds without zeros at the end.
-/

set_option autoImplicit false

namespace ServiceRouting

namespace Toml

open Scan

/-- A number of a fixed count of digits, between two limits. -/
def boundedNumber (count low high : Nat) : Scan (List Char) := do
  let found ← digits Char.isDigit count
  let number := Digits.number 10 found
  guard (low ≤ number && number ≤ high)
  return found

def isLeapYear (year : Nat) : Bool :=
  year % 4 == 0 && (year % 100 != 0 || year % 400 == 0)

def daysInMonth (year month : Nat) : Nat :=
  if month = 2 then if isLeapYear year then 29 else 28
  else if month ∈ [4, 6, 9, 11] then 30
  else 31

def date : Scan (List Char) := do
  let year ← digits Char.isDigit 4
  char '-'
  let month ← boundedNumber 2 1 12
  char '-'
  let day ← boundedNumber 2 1 (daysInMonth (Digits.number 10 year) (Digits.number 10 month))
  return year ++ '-' :: month ++ '-' :: day

/-- Digits without the zeros at their end. -/
def withoutLastZeros (found : List Char) : List Char :=
  (found.reverse.dropWhile fun digit => digit == '0').reverse

def fractionOfSecond : Scan (List Char) := do
  char '.'
  let found ← someCharsOf Char.isDigit
  match withoutLastZeros (found.take 9) with
  | [] => return []
  | places => return '.' :: places

/-- Second sixty is a leap second. -/
def timeOfDay : Scan (List Char) := do
  let hour ← boundedNumber 2 0 23
  char ':'
  let minute ← boundedNumber 2 0 59
  char ':'
  let second ← boundedNumber 2 0 60
  let fraction ← optional fractionOfSecond
  return hour ++ ':' :: minute ++ ':' :: second ++ fraction.getD []

def universalTime : Scan (List Char) := do
  let _ ← satisfy fun mark => mark == 'Z' || mark == 'z'
  return ['Z']

/-- No distance is written as one to the east. -/
def distance : Scan (List Char) := do
  let sign ← satisfy fun mark => mark == '+' || mark == '-'
  let hour ← boundedNumber 2 0 23
  char ':'
  let minute ← boundedNumber 2 0 59
  let shown := if Digits.number 10 hour = 0 ∧ Digits.number 10 minute = 0 then '+' else sign
  return shown :: hour ++ ':' :: minute

def timeAfterDate : Scan (List Char) := do
  let _ ← satisfy fun mark => mark == 'T' || mark == 't' || mark == ' '
  let time ← timeOfDay
  let offset ← optional (universalTime <|> distance)
  return 'T' :: time ++ offset.getD []

def moment : Scan String :=
  (do
    let day ← date
    let time ← optional timeAfterDate
    return String.ofList (day ++ time.getD [])) <|>
  (do
    let time ← timeOfDay
    return String.ofList time)

end Toml

end ServiceRouting
