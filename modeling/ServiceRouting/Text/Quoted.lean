import ServiceRouting.Text.CharClass

/-!
# Texts in double quotes

A quoted text shows each character so that it can be told apart on a terminal: quotes and
backslashes are marked, and characters that have no form of their own are given by their code
points.  An apostrophe stays as it is.
-/

set_option autoImplicit false

namespace ServiceRouting

namespace Quoted

/-- The code point in lower-case hexadecimal digits, between braces. -/
def codePoint (char : Char) : List Char :=
  '\\' :: 'u' :: '\x7b' :: (Nat.toDigits 16 char.toNat ++ ['\x7d'])

def encodeChar (char : Char) : List Char :=
  if char = '"' then ['\\', '"']
  else if char = '\\' then ['\\', '\\']
  else if char = '\n' then ['\\', 'n']
  else if char = '\r' then ['\\', 'r']
  else if char = '\t' then ['\\', 't']
  else if char.toNat = 0 then ['\\', '0']
  else if CharClass.extendsGrapheme char then codePoint char
  else if CharClass.isPrintable char then [char]
  else codePoint char

def encode (text : String) : String :=
  String.ofList ('"' :: (text.toList.flatMap encodeChar ++ ['"']))

/-! ## Collections of quoted texts -/

def braces (inside : List String) : String :=
  "\x7b" ++ ", ".intercalate inside ++ "\x7d"

/-- A set of texts, in the order given. -/
def set (texts : List String) : String :=
  braces (texts.map encode)

/-- A map from texts to values whose forms are given. -/
def map (pairs : List (String × String)) : String :=
  braces (pairs.map fun pair => encode pair.1 ++ ": " ++ pair.2)

/-- A record with named parts. -/
def record (name : String) (parts : List (String × String)) : String :=
  name ++ " \x7b " ++ ", ".intercalate (parts.map fun part => part.1 ++ ": " ++ part.2) ++ " \x7d"

/-- A value wrapped under a name. -/
def wrapped (name inside : String) : String :=
  name ++ "(" ++ inside ++ ")"

end Quoted

end ServiceRouting
