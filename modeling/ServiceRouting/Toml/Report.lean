import ServiceRouting.Data.Decode
import ServiceRouting.Toml.Document

/-!
# Reports on misfits

A value of the wrong kind is shown in its line, with carets below it.  A table that is not in the
text itself, because only longer keys name it, is shown by the part of the key that does.
-/

set_option autoImplicit false

namespace ServiceRouting

namespace Toml

/-! ## Finding the place -/

/-- The child that a step leads to, and where it stands. -/
def Node.step? (node : Node) : DataStep → Option (Node × Option Span)
  | .field name =>
    match node with
    | .table _ _ entries =>
      (child? name entries).map fun entry =>
        (entry.2, entry.2.span?.or (some entry.1.span))
    | _ => none
  | .item index =>
    match node with
    | .array items _ => items[index]?.map fun child => (child, child.span?)
    | .elements tables => tables[index]?.map fun child => (child, child.span?)
    | _ => none

/-- The innermost place on a path that is known. -/
def Node.place? (node : Node) (known : Option Span) : List DataStep → Option Span
  | [] => known
  | step :: path =>
    match node.step? step with
    | none => known
    | some (child, span) => child.place? (span.or known) path

/-! ## Writing the report -/

/-- The lines of a text, which only a line feed ends. -/
def sourceLines (text : String) : List String :=
  Pieces.ofText '\n' text

/-- The place after some bytes, by the line feeds and the characters of the line before it. -/
structure Position where
  line : Nat
  column : Nat
  deriving DecidableEq, Repr

def Position.after (offset : Nat) : List Char → Position → Position
  | [], position => position
  | char :: rest, position =>
    if offset < char.utf8Size then position
    else
      Position.after (offset - char.utf8Size) rest
        (if char = '\n' then ⟨position.line + 1, 0⟩ else ⟨position.line, position.column + 1⟩)

def blankColumns (count : Nat) : String :=
  String.ofList (List.replicate count ' ')

/-- There is one caret for every byte of the value up to the end of the line, and always one. -/
def carets (span : Span) (column lineBytes : Nat) : String :=
  let count := max 1 (min (span.stop - span.start) (lineBytes - column))
  String.ofList (List.replicate count '^')

def report (text : String) (place : Option Span) (reason : String) : String :=
  match place with
  | none => reason ++ "\n"
  | some span =>
    let position := Position.after span.start text.toList ⟨0, 0⟩
    let line := toString (position.line + 1)
    let column := toString (position.column + 1)
    let shown := ((sourceLines text)[position.line]?).getD ""
    let gutter := blankColumns (line.length + 1)
    let marks := carets span position.column shown.utf8ByteSize
    s!"TOML parse error at line {line}, column {column}\n" ++
      gutter ++ "|\n" ++
      line ++ " | " ++ shown ++ "\n" ++
      gutter ++ "|" ++ blankColumns (position.column + 1) ++ marks ++ "\n" ++
      reason ++ "\n"

end Toml

end ServiceRouting
