import ServiceRouting.Decimal.Shortest

/-!
# The binary number nearest to a decimal

A decimal is read as the double-precision number that lies nearest to it; halfway between two it is
the one with the even significand.  The quotient is rounded once, with whole numbers only.
-/

set_option autoImplicit false

namespace ServiceRouting

namespace Fraction

/-- The product `value · 2 ^ places`. -/
def shift (value : Fraction) : Int → Fraction
  | .ofNat places => ⟨value.numerator <<< places, value.denominator⟩
  | .negSucc places => ⟨value.numerator, value.denominator <<< (places + 1)⟩

/-- The nearest whole number, and the even one of two. -/
def roundHalfEven (value : Fraction) : Nat :=
  let below := value.floor
  let rest := value.numerator % value.denominator
  if 2 * rest < value.denominator then below
  else if value.denominator < 2 * rest then below + 1
  else below + below % 2

/-- The greatest `places` with `2 ^ places ≤ value`, for a value above zero. -/
def log2 (value : Fraction) : Int :=
  let rough : Int := (value.numerator.log2 : Int) - (value.denominator.log2 : Int)
  let unit := value.shift (-rough)
  if unit.denominator ≤ unit.numerator then rough else rough - 1

end Fraction

namespace Decimal

/-- The exponent field and the fraction of infinity. -/
def infiniteBits : Nat := 2047 <<< 52

/-- The bits of the double-precision number nearest to a value above zero. -/
def nearestBits (value : Fraction) : Nat :=
  let place := max (value.log2 - 52) (-1074)
  let significand := (value.shift (-place)).roundHalfEven
  min infiniteBits (((place + 1074).toNat <<< 52) + significand)

/-- Beyond these counts of digits before and after the point a decimal is infinite or zero. -/
def largestMagnitude : Int := 310

def smallestMagnitude : Int := -330

def magnitudeBits (decimal : Decimal) : Nat :=
  if decimal.digits = 0 then 0
  else
    let places : Int := (Nat.toDigits 10 decimal.digits).length + decimal.exponent
    if largestMagnitude < places then infiniteBits
    else if places < smallestMagnitude then 0
    else nearestBits decimal.value

def readFloat (negative : Bool) (decimal : Decimal) : Float :=
  let sign := if negative then 1 <<< 63 else 0
  Float.ofBits (UInt64.ofNat (sign + decimal.magnitudeBits))

end Decimal

end ServiceRouting
