import ServiceRouting.Toml.Syntax

/-!
# Documents

The statements of a document are put together to a tree of tables.  Who made a table decides who may
add to it: a table with a header of its own or with braces around it is complete, whereas one that
is only on the way to others stays open, to the headers or to the dotted keys that need it.
-/

set_option autoImplicit false

namespace ServiceRouting

namespace Toml

/-! ## Trees -/

inductive TableOrigin where
  /-- The table has a header of its own, or is the document. -/
  | header
  /-- The table is on the way to that of a header. -/
  | passage
  /-- The table is on the way of a dotted key. -/
  | dotted
  /-- The table stands in braces. -/
  | braces
  deriving DecidableEq, Repr

/-- A table that is not in the text itself has no span. -/
inductive Node where
  | scalar (value : Datum) (span : Span)
  | array (items : List Node) (span : Span)
  /-- An array of tables that have headers. -/
  | elements (tables : List Node)
  | table (origin : TableOrigin) (span : Option Span) (entries : List (KeyPart × Node))

namespace Node

def emptyTable (origin : TableOrigin) : Node :=
  .table origin none []

def child? (name : String) : List (KeyPart × Node) → Option (KeyPart × Node)
  | [] => none
  | entry :: rest => if entry.1.text = name then some entry else child? name rest

/-- Puts a node under a key; an entry that is there keeps its place and the key it came with. -/
def setEntry (part : KeyPart) (node : Node) : List (KeyPart × Node) → List (KeyPart × Node)
  | [] => [(part, node)]
  | entry :: rest =>
    if entry.1.text = part.text then (entry.1, node) :: rest
    else entry :: setEntry part node rest

/-- The place of a node.  An array of tables reaches from its first header to its last table. -/
def span? : Node → Option Span
  | scalar _ span => some span
  | array _ span => some span
  | elements tables =>
    match tables.head?, tables.getLast? with
    | some (.table _ (some first) _), some (.table _ (some last) _) =>
      some ⟨first.start, last.stop⟩
    | _, _ => none
  | table _ span _ => span

/-! ## Growing a tree -/

/-- Whether the way of a header or of a dotted key may lead through a table. -/
def mayPass (traveller : TableOrigin) (origin : TableOrigin) : Bool :=
  match origin with
  | .braces => false
  | .header => traveller != .dotted
  | .passage | .dotted => true

/-- Changes the table at the end of a path, and makes the tables on the way that are missing.  In an
array of tables the way goes on in the last of them. -/
def change (traveller : TableOrigin) (alter : Node → Option Node) :
    List KeyPart → Node → Option Node
  | [], node => alter node
  | part :: path, .table origin span entries => do
    let child := ((child? part.text entries).map Prod.snd).getD (emptyTable traveller)
    let changed ← match child with
      | .table childOrigin _ _ =>
        if mayPass traveller childOrigin then change traveller alter path child else none
      | .elements tables => do
        let last ← tables.getLast?
        let next ← change traveller alter path last
        some (.elements (tables.dropLast ++ [next]))
      | _ => none
    some (.table origin span (setEntry part changed entries))
  | _ :: _, _ => none

/-- Adds an entry to a table that is open to it: a table on the way of a dotted key takes entries of
dotted keys only, and any other one only entries of its own. -/
def addEntry (dotted : Bool) (part : KeyPart) (node : Node) : Node → Option Node
  | .table origin span entries =>
    if dotted = (origin == .dotted) ∧ (child? part.text entries).isNone then
      some (.table origin span (entries ++ [(part, node)]))
    else none
  | _ => none

def assign (key : Key) (node : Node) : Node → Option Node :=
  change .dotted (addEntry (!key.path.isEmpty) key.last node) key.path

/-- Opens a table for a header.  A table that was only on the way so far is continued, and takes its
place after the others. -/
def openTable (part : KeyPart) (span : Span) : Node → Option Node
  | .table origin outer entries =>
    match child? part.text entries with
    | none => some (.table origin outer (entries ++ [(part, .table .header (some span) [])]))
    | some (_, .table .passage _ inner) =>
      let others := entries.filter fun entry => entry.1.text != part.text
      some (.table origin outer (others ++ [(part, .table .header (some span) inner)]))
    | some _ => none
  | _ => none

/-- Opens one more table of an array. -/
def openElement (part : KeyPart) (span : Span) : Node → Option Node
  | .table origin outer entries =>
    let opened : Node := .table .header (some span) []
    match child? part.text entries with
    | none => some (.table origin outer (entries ++ [(part, .elements [opened])]))
    | some (_, .elements tables) =>
      some (.table origin outer (setEntry part (.elements (tables ++ [opened])) entries))
    | some _ => none
  | _ => none

/-- A table with a header reaches to the end of its last value. -/
def stretch (stop : Nat) : Node → Node
  | .table origin (some span) entries => .table origin (some ⟨span.start, stop⟩) entries
  | other => other

end Node

/-! ## Putting statements together -/

mutual

/-- A written value as a node; two keys of one table must not clash. -/
def Expression.node? : Expression → Option Node
  | .scalar value span => some (.scalar value span)
  | .array items span => do
    let nodes ← Expression.nodes? items
    some (.array nodes span)
  | .table pairs span => Expression.addPairs? (.table .braces (some span) []) pairs

def Expression.nodes? : List Expression → Option (List Node)
  | [] => some []
  | item :: rest => do
    let first ← item.node?
    let later ← Expression.nodes? rest
    some (first :: later)

def Expression.addPairs? (gathered : Node) : List (Key × Expression) → Option Node
  | [] => some gathered
  | (key, expression) :: rest => do
    let node ← expression.node?
    let next ← Node.assign key node gathered
    Expression.addPairs? next rest

end

/-- A document so far, and the path of the table that is being filled. -/
structure Assembly where
  root : Node
  current : List KeyPart

namespace Assembly

def start : Assembly :=
  ⟨.emptyTable .header, []⟩

def add (assembly : Assembly) : Statement → Option Assembly
  | .table key span => do
    let root ← assembly.root.change .passage (Node.openTable key.last span) key.path
    some ⟨root, key.parts⟩
  | .element key span => do
    let root ← assembly.root.change .passage (Node.openElement key.last span) key.path
    some ⟨root, key.parts⟩
  | .assignment key expression => do
    let node ← expression.node?
    let fill (table : Node) := Node.assign key node (table.stretch expression.span.stop)
    let root ← assembly.root.change .passage fill assembly.current
    some { assembly with root := root }

end Assembly

/-- The tree of a text, if the text is a document. -/
def read? (text : String) : Option Node := do
  let statements ← Scan.ofText? document text
  let assembly ← statements.foldlM Assembly.add .start
  some assembly.root

/-! ## Reading trees -/

mutual

def Node.datum : Node → Datum
  | .scalar value _ => value
  | .array items _ => .sequence (Node.data items)
  | .elements tables => .sequence (Node.data tables)
  | .table _ _ entries => .mapping (Node.fieldData entries)

def Node.data : List Node → List Datum
  | [] => []
  | node :: rest => node.datum :: Node.data rest

def Node.fieldData : List (KeyPart × Node) → List (String × Datum)
  | [] => []
  | (part, node) :: rest => (part.text, node.datum) :: Node.fieldData rest

end

end Toml

end ServiceRouting
