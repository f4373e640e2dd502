/-!
# The shortest decimal of a binary number

A binary number `m · 2 ^ q` stands for every real that rounds to it.  Its shortest decimal is the
one with the fewest digits among them, and of those the nearest.  For each count of digits only the
two decimals beside the number have to be tried: if any decimal of that count rounds to the number,
so does one of the two.  All comparisons are between whole numbers.
-/

set_option autoImplicit false

namespace ServiceRouting

/-- The decimal `digits · 10 ^ exponent`. -/
structure Decimal where
  digits : Nat
  exponent : Int
  deriving DecidableEq, Repr

/-- A positive fraction. -/
structure Fraction where
  numerator : Nat
  denominator : Nat
  deriving DecidableEq, Repr

namespace Fraction

def le (first second : Fraction) : Bool :=
  decide (first.numerator * second.denominator ≤ second.numerator * first.denominator)

def lt (first second : Fraction) : Bool :=
  !second.le first

/-- The product `value · base ^ exponent`. -/
def scaled (value base : Nat) : Int → Fraction
  | .ofNat exponent => ⟨value * base.pow exponent, 1⟩
  | .negSucc exponent => ⟨value, base.pow (exponent + 1)⟩

def floor (value : Fraction) : Nat :=
  value.numerator / value.denominator

end Fraction

namespace Decimal

def value (decimal : Decimal) : Fraction :=
  Fraction.scaled decimal.digits 10 decimal.exponent

/-- The reals that round to a binary number; the ends count when its significand is even. -/
structure Interval where
  low : Fraction
  high : Fraction
  closed : Bool

def Interval.contains (interval : Interval) (point : Fraction) : Bool :=
  if interval.closed then interval.low.le point && point.le interval.high
  else interval.low.lt point && point.lt interval.high

/-- The interval of `significand · 2 ^ exponent`.  Below a power of two, which `narrow` marks, the
neighbours stand only half as far apart. -/
def Interval.around (significand : Nat) (exponent : Int) (narrow : Bool) : Interval where
  low := Fraction.scaled (4 * significand - if narrow then 1 else 2) 2 (exponent - 2)
  high := Fraction.scaled (4 * significand + 2) 2 (exponent - 2)
  closed := significand % 2 == 0

/-- How many digits stand before the decimal point; zero and below count the zeros after it. -/
def magnitude (number : Fraction) : Int :=
  if number.numerator < number.denominator then
    let zeros := (List.range 400).find? fun count =>
      decide (number.denominator ≤ number.numerator * Nat.pow 10 (count + 1))
    (0 : Int) - (zeros.getD 400 : Nat)
  else (Nat.toDigits 10 number.floor).length

/-- Whether the decimal above a number is taken rather than the one below: the nearer one counts,
and halfway the greater one or the one with the even digit. -/
def takesAbove (evenTies : Bool) (number : Fraction) (below above : Decimal) : Bool :=
  let twice : Fraction := ⟨2 * number.numerator, number.denominator⟩
  let low := below.value
  let high := above.value
  let sum : Fraction :=
    ⟨low.numerator * high.denominator + high.numerator * low.denominator,
      low.denominator * high.denominator⟩
  if twice.lt sum then false
  else if sum.lt twice then true
  else !evenTies || above.digits % 2 == 0

/-- The decimal of a given exponent that rounds to the number, if there is one. -/
def onGrid? (evenTies : Bool) (number : Fraction) (interval : Interval) (exponent : Int) :
    Option Decimal :=
  let steps := Fraction.scaled 1 10 (-exponent)
  let digits := (number.numerator * steps.numerator) / (number.denominator * steps.denominator)
  let below : Decimal := ⟨digits, exponent⟩
  let above : Decimal := ⟨digits + 1, exponent⟩
  match interval.contains below.value, interval.contains above.value with
  | true, true => some (if takesAbove evenTies number below above then above else below)
  | true, false => some below
  | false, true => some above
  | false, false => none

/-- Moves the zeros at the end of the digits into the exponent. -/
def strip (digits : Nat) (exponent : Int) : Decimal :=
  if trailing : digits ≠ 0 ∧ digits % 10 = 0 then strip (digits / 10) (exponent + 1)
  else ⟨digits, exponent⟩
termination_by digits
decreasing_by omega

/-- The shortest decimal of `significand · 2 ^ exponent`, for a significand above zero. -/
def shortest (evenTies : Bool) (significand : Nat) (exponent : Int) (narrow : Bool) : Decimal :=
  let number := Fraction.scaled significand 2 exponent
  let interval := Interval.around significand exponent narrow
  let top := magnitude number
  let found := (List.range 17).findSome? fun count =>
    onGrid? evenTies number interval (top - (count + 1 : Nat))
  let decimal := found.getD ⟨number.floor, 0⟩
  strip decimal.digits decimal.exponent

/-! ## Writing -/

/-- Digits with a decimal point and at least one digit on each side of it, never an exponent. -/
def positional (decimal : Decimal) : String :=
  let digits := Nat.toDigits 10 decimal.digits
  match decimal.exponent with
  | .ofNat exponent => String.ofList (digits ++ List.replicate exponent '0') ++ ".0"
  | .negSucc exponent =>
    let places := exponent + 1
    let padded := List.replicate (places + 1 - digits.length) '0' ++ digits
    String.ofList (padded.take (padded.length - places)) ++ "." ++
      String.ofList (padded.drop (padded.length - places))

/-- The place of the first digit: zero for the units, below zero behind the point. -/
def leadingPlace (decimal : Decimal) : Int :=
  decimal.exponent + (Nat.toDigits 10 decimal.digits).length - 1

/-- One digit before the point, none of the others missing, and the signed place of the first. -/
def scientific (decimal : Decimal) : String :=
  let digits := Nat.toDigits 10 decimal.digits
  let point := if digits.length = 1 then [] else ['.']
  let place := decimal.leadingPlace
  let sign := if place < 0 then "-" else "+"
  String.ofList (digits.take 1 ++ point ++ digits.drop 1) ++ "e" ++ sign ++ toString place.natAbs

/-- How the shortest decimals are chosen and written. -/
structure Style where
  /-- Of two that are equally near the one with the even digit is taken, not the greater one. -/
  evenTies : Bool
  /-- The first and last place of a first digit that is written without an exponent; without
  these bounds there never is an exponent. -/
  plain : Option (Int × Int)

def Style.write (style : Style) (decimal : Decimal) : String :=
  match style.plain with
  | none => decimal.positional
  | some (first, last) =>
    if first ≤ decimal.leadingPlace ∧ decimal.leadingPlace ≤ last then decimal.positional
    else decimal.scientific

/-- A double-precision number as the shortest decimal that reads back as it. -/
def writeFloat (style : Style) (number : Float) : String :=
  let bits := number.toBits.toNat
  let sign := if bits >>> 63 = 1 then "-" else ""
  let field : Nat := (bits >>> 52) % 2048
  let fraction : Nat := bits % (1 <<< 52)
  if field = 2047 then
    if fraction = 0 then sign ++ "inf" else "NaN"
  else if field = 0 ∧ fraction = 0 then sign ++ "0.0"
  else if field = 0 then sign ++ style.write (shortest style.evenTies fraction (-1074) false)
  else
    let narrow := decide (fraction = 0) && decide (1 < field)
    sign ++ style.write
      (shortest style.evenTies ((1 <<< 52) + fraction) ((field : Int) - 1075) narrow)

end Decimal

end ServiceRouting
