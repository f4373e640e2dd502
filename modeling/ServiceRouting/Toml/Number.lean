import ServiceRouting.Data.Value
import ServiceRouting.Decimal.Nearest
import ServiceRouting.Toml.Lexical
import ServiceRouting.Text.Pieces

/-!
# Numbers

Whole numbers are decimal with a sign or have a base other than ten and no sign; they fit 64 signed
bits.  A number with a fraction or an exponent, and the words for infinity and for no number, are
double-precision numbers.  Between two digits there may be one underscore.
-/

set_option autoImplicit false

namespace ServiceRouting

namespace Toml

open Scan

/-- Digits of a kind without the underscores between them. -/
def digitGroups (isDigit : Char → Bool) : Scan (List Char) := do
  let found ← charsOf fun char => isDigit char || char == '_'
  let groups := Pieces.cut '_' found
  guard (groups.all fun group => !group.isEmpty)
  return groups.flatten

/-- Whether there is a minus sign; a plus sign changes nothing. -/
def sign : Scan Bool :=
  (char '-' *> return true) <|> (char '+' *> return false) <|> return false

def inRange (number : Int) : Bool :=
  Int64.minValue.toInt ≤ number && number ≤ Int64.maxValue.toInt

def whole (number : Int) : Scan Datum := do
  guard (inRange number)
  return .integer number

def isOctalDigit (char : Char) : Bool :=
  '0' ≤ char && char ≤ '7'

def isBinaryDigit (char : Char) : Bool :=
  char == '0' || char == '1'

def based (mark : Char) (base : Nat) (isDigit : Char → Bool) : Scan Datum := do
  chars ['0', mark]
  let found ← digitGroups isDigit
  whole (Digits.number base found)

def exponent : Scan Int := do
  let _ ← satisfy fun mark => mark == 'e' || mark == 'E'
  let negative ← sign
  let size : Int := Digits.number 10 (← digitGroups Char.isDigit)
  return if negative then -size else size

def fraction : Scan (List Char) := do
  char '.'
  digitGroups Char.isDigit

/-- Settings show a number with all its places. -/
def style : Decimal.Style :=
  ⟨false, none⟩

def shown (number : Float) : Datum :=
  .decimal (Decimal.writeFloat style number)

/-- A number too great for double precision is refused, but only above zero. -/
def real (negative : Bool) (found : List Char) (power : Int) : Scan Datum := do
  let number := Decimal.readFloat negative ⟨Digits.number 10 found, power⟩
  guard (negative || number.isFinite)
  return shown number

/-- The whole part has no zeros before its first other digit. -/
def decimal : Scan Datum := do
  let negative ← sign
  let front ← digitGroups Char.isDigit
  guard (front.length == 1 || front.head? != some '0')
  let places ← optional fraction
  let power ← optional exponent
  match places, power with
  | none, none =>
    let size : Int := Digits.number 10 front
    whole (if negative then -size else size)
  | _, _ =>
    let behind := places.getD []
    real negative (front ++ behind) (power.getD 0 - behind.length)

def infinite : Scan Datum := do
  let negative ← sign
  chars ['i', 'n', 'f']
  return shown (if negative then -(1.0 / 0.0) else 1.0 / 0.0)

def undefined : Scan Datum := do
  let _ ← sign
  chars ['n', 'a', 'n']
  return shown (0.0 / 0.0)

def number : Scan Datum :=
  based 'x' 16 Digits.isHex <|> based 'o' 8 isOctalDigit <|> based 'b' 2 isBinaryDigit <|>
    decimal <|> infinite <|> undefined

end Toml

end ServiceRouting
