import ServiceRouting.Text.CharClass
import ServiceRouting.Text.Pieces

/-!
# Layout of plain text

Columns, trimmed white space and lines.
-/

set_option autoImplicit false

namespace ServiceRouting

namespace Layout

/-- Fills a text up with blanks on the right; longer texts stay whole. -/
def column (width : Nat) (text : String) : String :=
  text ++ String.ofList (List.replicate (width - text.length) ' ')

/-- A text without the white space at both of its ends. -/
def trim (text : List Char) : List Char :=
  ((text.dropWhile CharClass.isBlank).reverse.dropWhile CharClass.isBlank).reverse

def lines (text : String) : List String :=
  Pieces.ofText '\n' text

/-- A line without the carriage return that belongs to its end. -/
def withoutReturn (line : List Char) : List Char :=
  match line.reverse with
  | '\r' :: rest => rest.reverse
  | _ => line

/-- The lines of a text as a reader takes them: each ends with a line feed, perhaps behind a
carriage return, and nothing behind the last line feed is no line. -/
def readLines (text : String) : List String :=
  match (Pieces.cut '\n' text.toList).reverse with
  | [] => []
  | last :: ended =>
    let lines := (ended.map withoutReturn).reverse
    (if last = [] then lines else lines ++ [last]).map String.ofList

/-- The first line of a text, which may be its only one. -/
def firstLine (text : String) : String :=
  (readLines text).head?.getD ""

/-- Sets all lines but the first one in by some columns. -/
def hang (columns : Nat) (text : String) : String :=
  ("\n" ++ String.ofList (List.replicate columns ' ')).intercalate (lines text)

end Layout

end ServiceRouting
