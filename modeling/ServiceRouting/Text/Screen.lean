/-!
# Text without control sequences

What is written to something other than a screen loses the sequences that would steer the screen,
and with them every control character that is no white space.  A sequence starts with the escape
character and ends with its final byte, with a terminator, or where the next one starts.  White
space inside a short sequence is shown; inside the text of a long one it is a part of that text.
-/

set_option autoImplicit false

namespace ServiceRouting

namespace Screen

/-- Where the reader of a byte stands. -/
inductive Mode where
  | ground
  /-- Behind the escape character. -/
  | escape
  | escapeIntermediate
  /-- In the parameters of a control sequence. -/
  | control
  /-- At the start of a device control string. -/
  | device
  | deviceParameters
  | deviceIntermediate
  /-- In a text that only a string terminator ends. -/
  | string
  /-- In the text of a system command, which a bell ends as well. -/
  | system
  deriving DecidableEq, Repr

/-! ## Kinds of bytes -/

def within (first last byte : Nat) : Bool :=
  decide (first ≤ byte) && decide (byte ≤ last)

/-- Tabulator, line feed, form feed and carriage return. -/
def isBreak (byte : Nat) : Bool :=
  byte == 0x9 || byte == 0xa || byte == 0xc || byte == 0xd

def isVisible (byte : Nat) : Bool :=
  within 0x20 0x7e byte || isBreak byte

/-- How many bytes of a character follow its first byte. -/
def following (byte : Nat) : Nat :=
  if within 0xc2 0xdf byte then 1
  else if within 0xe0 0xef byte then 2
  else if within 0xf0 0xf4 byte then 3
  else 0

/-! ## Following a sequence -/

namespace Mode

/-- Whether a byte is shown; characters outside ASCII start on the ground only. -/
def shows : Mode → Nat → Bool
  | ground, byte => isVisible byte || decide (0 < following byte)
  | escape, byte => isBreak byte
  | escapeIntermediate, byte => isBreak byte
  | control, byte => isBreak byte
  | _, _ => false

def afterEscape (byte : Nat) : Mode :=
  if within 0x20 0x2f byte then escapeIntermediate
  else if byte == 0x5b then control
  else if byte == 0x5d then system
  else if byte == 0x50 then device
  else if byte == 0x58 || byte == 0x5e || byte == 0x5f then string
  else if within 0x30 0x7e byte then ground
  else escape

/-- The mode after a byte that neither starts a sequence nor calls one off. -/
def follow : Mode → Nat → Mode
  | ground, _ => ground
  | escape, byte => afterEscape byte
  | escapeIntermediate, byte => if within 0x30 0x7e byte then ground else escapeIntermediate
  | control, byte => if within 0x40 0x7e byte then ground else control
  | device, byte =>
    if within 0x20 0x2f byte then deviceIntermediate
    else if within 0x30 0x3f byte then deviceParameters
    else if within 0x40 0x7e byte then string
    else device
  | deviceParameters, byte =>
    if within 0x20 0x2f byte then deviceIntermediate
    else if within 0x3c 0x7e byte then string
    else deviceParameters
  | deviceIntermediate, byte => if within 0x30 0x7e byte then string else deviceIntermediate
  | string, byte => if byte == 0x9c then ground else string
  | system, byte => if byte == 0x07 then ground else system

/-- The escape character starts anew; cancel and substitute call the sequence off. -/
def next (mode : Mode) (byte : Nat) : Mode :=
  if byte == 0x1b then escape
  else if byte == 0x18 || byte == 0x1a then ground
  else mode.follow byte

end Mode

/-! ## Reading -/

/-- A reader looks for the next byte to show, or shows a run of them.  In a run it counts the bytes
that the character at hand still lacks. -/
inductive Phase where
  | seeking (mode : Mode)
  | showing (mode : Mode) (lacking : Nat)
  deriving DecidableEq, Repr

/-- One byte: whether it is shown, and what the reader does next.  A reader that resumes goes on
with a short sequence after the white space inside it; another one forgets it there. -/
def step (resumes : Bool) (byte : Nat) : Phase → Bool × Phase
  | .seeking mode =>
    if mode.shows byte then
      (true, .showing (if resumes then mode else .ground) (following byte))
    else (false, .seeking (mode.next byte))
  | .showing mode (lacking + 1) => (true, .showing mode lacking)
  | .showing mode 0 =>
    if Mode.ground.shows byte then
      (true, .showing (if following byte = 0 then mode else .ground) (following byte))
    else (false, .seeking (mode.next byte))

def shown (resumes : Bool) : Phase → List UInt8 → List UInt8
  | _, [] => []
  | phase, byte :: rest =>
    let result := step resumes byte.toNat phase
    if result.1 then byte :: shown resumes result.2 rest else shown resumes result.2 rest

/-- The part of a text that is left without its control sequences. -/
def strip (resumes : Bool) (text : String) : String :=
  let bytes := shown resumes (.seeking .ground) text.toUTF8.toList
  (String.fromUTF8? ⟨bytes.toArray⟩).getD ""

/-! ## Colours -/

/-- A text between the sequence that sets a colour or weight and the one that resets it. -/
def styled (style : Nat) (text : String) : String :=
  "\x1b[" ++ toString style ++ "m" ++ text ++ "\x1b[0m"

end Screen

end ServiceRouting
