/-!
# Digits

The digits of numbers in bases up to sixteen and the numbers that rows of them stand for.
-/

set_option autoImplicit false

namespace ServiceRouting

namespace Digits

def isHex (char : Char) : Bool :=
  char.isDigit || ('a' ≤ char && char ≤ 'f') || ('A' ≤ char && char ≤ 'F')

def value (char : Char) : Nat :=
  if char.isDigit then char.toNat - '0'.toNat
  else if 'a' ≤ char then char.toNat - 'a'.toNat + 10
  else char.toNat - 'A'.toNat + 10

def number (base : Nat) (digits : List Char) : Nat :=
  digits.foldl (fun number digit => number * base + value digit) 0

/-- The character of a code point; surrogates are no characters. -/
def scalar? (code : Nat) : Option Char :=
  if code.isValidChar then some (Char.ofNat code) else none

end Digits

end ServiceRouting
