import ServiceRouting.Data.Value

/-!
# Values as JSON text

A value is written over several lines, each level set in by two columns.  Empty collections stay on
one line, and no character is escaped that may stand as itself.
-/

set_option autoImplicit false

namespace ServiceRouting

namespace Json

def hexDigits (width number : Nat) : List Char :=
  let digits := Nat.toDigits 16 number
  List.replicate (width - digits.length) '0' ++ digits

def escapeChar (char : Char) : List Char :=
  match char with
  | '"' => ['\\', '"']
  | '\\' => ['\\', '\\']
  | '\x08' => ['\\', 'b']
  | '\x0c' => ['\\', 'f']
  | '\n' => ['\\', 'n']
  | '\r' => ['\\', 'r']
  | '\t' => ['\\', 't']
  | other =>
    if other.toNat < 0x20 then '\\' :: 'u' :: hexDigits 4 other.toNat else [other]

def quote (text : String) : String :=
  String.ofList ('"' :: (text.toList.flatMap escapeChar ++ ['"']))

/-- The start of a line at some level. -/
def lineStart (level : Nat) : String :=
  "\n" ++ String.ofList (List.replicate (2 * level) ' ')

/-- Written items between two brackets, each on a line of its own. -/
def block (level : Nat) (opening closing : String) (items : List String) : String :=
  match items with
  | [] => opening ++ closing
  | items =>
    let start := lineStart (level + 1)
    opening ++ start ++ ("," ++ start).intercalate items ++ lineStart level ++ closing

mutual

def write (level : Nat) : Datum → String
  | .null => "null"
  | .truth value => toString value
  | .integer value => toString value
  | .decimal shown => shown
  | .text value => quote value
  | .sequence items => block level "[" "]" (writeItems (level + 1) items)
  | .mapping fields => block level "\x7b" "\x7d" (writeFields (level + 1) fields)

def writeItems (level : Nat) : List Datum → List String
  | [] => []
  | item :: rest => write level item :: writeItems level rest

def writeFields (level : Nat) : List (String × Datum) → List String
  | [] => []
  | (name, value) :: rest =>
    (quote name ++ ": " ++ write level value) :: writeFields level rest

end

def pretty (datum : Datum) : String :=
  write 0 datum

end Json

end ServiceRouting
