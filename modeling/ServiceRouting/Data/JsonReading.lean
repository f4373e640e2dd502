import ServiceRouting.Data.Json
import ServiceRouting.Decimal.Nearest
import ServiceRouting.SortedMap
import ServiceRouting.Text.Digits
import ServiceRouting.Text.Scan

/-!
# Reading JSON text

Fields of an object are visited in the order of their names, and the last of two with one name
counts.  A number without a fraction and an exponent is whole where it fits 64 bits, with a sign or
without; every other number is a product of the digits that fit 64 bits and one power of ten, each
step rounded to double precision.
-/

set_option autoImplicit false

namespace ServiceRouting

namespace Json

open Scan

def isBlank (char : Char) : Bool :=
  char == ' ' || char == '\t' || char == '\n' || char == '\r'

def blanks : Scan Unit := do
  let _ ← charsOf isBlank

/-- A mark, perhaps behind white space. -/
def mark (expected : Char) : Scan Unit := do
  blanks
  char expected

/-! ## Texts -/

def fourDigits : Scan Nat := do
  let first ← satisfy Digits.isHex
  let second ← satisfy Digits.isHex
  let third ← satisfy Digits.isHex
  let fourth ← satisfy Digits.isHex
  return Digits.number 16 [first, second, third, fourth]

/-- The second half of a character that is written as two. -/
def lowHalf : Scan Nat := do
  chars ['\\', 'u']
  let low ← fourDigits
  guard (decide (0xdc00 ≤ low) && decide (low < 0xe000))
  return low

def codePoint : Scan Char := do
  let code ← fourDigits
  if 0xd800 ≤ code ∧ code < 0xdc00 then
    let low ← lowHalf
    Digits.scalar? (0x10000 + (code - 0xd800) * 0x400 + (low - 0xdc00))
  else Digits.scalar? code

def escaped : Scan Char := do
  char '\\'
  match ← satisfy fun _ => true with
  | '"' => return '"'
  | '\\' => return '\\'
  | '/' => return '/'
  | 'b' => return '\x08'
  | 'f' => return '\x0c'
  | 'n' => return '\n'
  | 'r' => return '\r'
  | 't' => return '\t'
  | 'u' => codePoint
  | _ => failure

def isPlain (char : Char) : Bool :=
  char != '"' && char != '\\' && decide (0x20 ≤ char.toNat)

def text : Scan String := do
  mark '"'
  let found ← many (satisfy isPlain <|> escaped)
  char '"'
  return String.ofList found

/-! ## Numbers -/

/-- Numbers below it fit 64 bits. -/
def wordLimit : Nat := UInt64.size

/-- Reads digits behind those of a number while the result fits, and counts the ones taken. -/
def gather (number : Nat) : List Char → Nat × Nat
  | [] => (number, 0)
  | digit :: rest =>
    let next := number * 10 + Digits.value digit
    if next < wordLimit then
      let (found, count) := gather next rest
      (found, count + 1)
    else (number, 0)

/-- The greatest power of ten by which a number is multiplied or divided at once. -/
def greatestPower : Nat := 308

/-- The product with a power of ten.  A power too small is divided out in steps, until nothing is
left; a product too great is no number. -/
def scaleUpTo : Nat → Float → Int → Option Float
  | 0, number, _ => some number
  | steps + 1, number, exponent =>
    if exponent.natAbs ≤ greatestPower then
      let power := Decimal.readFloat false ⟨1, exponent.natAbs⟩
      if exponent < 0 then some (number / power)
      else if (number * power).isFinite then some (number * power)
      else none
    else if number == 0.0 then some number
    else if 0 < exponent then none
    else
      scaleUpTo steps (number / Decimal.readFloat false ⟨1, greatestPower⟩)
        (exponent + greatestPower)

/-- JSON text writes places from the fifth behind the point to the sixteenth before it. -/
def style : Decimal.Style :=
  ⟨true, some (-5, 15)⟩

def shown (negative : Bool) (number : Float) : Datum :=
  .decimal (Decimal.writeFloat style (if negative then -number else number))

/-- Three steps are enough: the second one leaves nothing of the greatest number. -/
def scaled (negative : Bool) (digits : Nat) (exponent : Int) : Option Datum :=
  (scaleUpTo 4 (Decimal.readFloat false ⟨digits, 0⟩) exponent).map (shown negative)

/-- Zero with a sign is no whole number. -/
def whole (negative : Bool) (digits : List Char) : Option Datum :=
  let (number, count) := gather 0 digits
  if count < digits.length then scaled negative number (digits.length - count : Nat)
  else if ¬ negative then some (.integer number)
  else if number = 0 ∨ wordLimit / 2 < number then scaled negative number 0
  else some (.integer (-(number : Int)))

def exponent : Scan Int := do
  char 'e' <|> char 'E'
  let sign ← optional (satisfy fun char => char == '+' || char == '-')
  let size := Digits.number 10 (← someCharsOf Char.isDigit)
  return if sign == some '-' then -(size : Int) else size

def fraction : Scan (List Char) := do
  char '.'
  someCharsOf Char.isDigit

def number : Scan Datum := do
  blanks
  let negative := (← optional (char '-')).isSome
  let front ← someCharsOf Char.isDigit
  guard (front.length == 1 || front.head? != some '0')
  let places ← optional fraction
  let power ← optional exponent
  if places.isNone && power.isNone then whole negative front
  else
    let (before, count) := gather 0 front
    let (digits, behind) := gather before (places.getD [])
    scaled negative digits ((front.length : Int) - count - behind + power.getD 0)

/-! ## Values -/

def word (name : String) (value : Datum) : Scan Datum := do
  blanks
  chars name.toList
  return value

def field (value : Scan Datum) : Scan (String × Datum) := do
  let name ← text
  mark ':'
  return (name, ← value)

def sequence (value : Scan Datum) : Scan Datum := do
  mark '['
  let items ← separatedBy (mark ',') value
  mark ']'
  return .sequence items

def mapping (value : Scan Datum) : Scan Datum := do
  mark '\x7b'
  let fields ← separatedBy (mark ',') (field value)
  mark '\x7d'
  return .mapping (SortedMap.ofList fields).entries

/-- A value whose parts are nested up to some depth. -/
def value : Nat → Scan Datum
  | 0 => failure
  | depth + 1 =>
    word "null" .null <|> word "true" (.truth true) <|> word "false" (.truth false) <|>
      Datum.text <$> text <|> sequence (value depth) <|> mapping (value depth) <|> number

/-- The value that a text stands for; it is not nested deeper than there are opening brackets. -/
def parse? (source : String) : Option Datum :=
  let depth := source.toList.countP fun char => char == '[' || char == '\x7b'
  ofText? (value (depth + 1) <* blanks <* endOfText) source

end Json

/-- The value of a field of a mapping. -/
def Datum.field? (name : String) : Datum → Option Datum
  | mapping fields => fields.lookup name
  | _ => none

end ServiceRouting
