import ServiceRouting.Service.Capability
import ServiceRouting.Service.Entry
import ServiceRouting.Service.ErrorKind
import ServiceRouting.SortedMap
import ServiceRouting.Text.Quoted

/-!
# Published symbols

A provider can publish named values of any types for others to use.  A typed look-up finds a
value only under its own type, and publishing under a name that is taken replaces the value.  Every
act of publishing gets a serial number of its own, so a symbol can be told from another one that
has the same value.
-/

set_option autoImplicit false

namespace ServiceRouting

inductive SymbolType where
  | text
  | fixedText
  | word32
  | signed64
  | truth
  | errorKinds
  | capability
  | entryMode
  | entryModes
  | metadata
  | entry
  /-- Any other type; its values are passed on and not looked into. -/
  | foreign (name : String)
  deriving DecidableEq, Repr

inductive SymbolValue where
  | text (value : String)
  /-- A text that is part of the program itself; its type is not that of other texts. -/
  | fixedText (value : String)
  | word32 (value : UInt32)
  | signed64 (value : Int64)
  | truth (value : Bool)
  | errorKinds (value : List ErrorKind)
  | capability (value : Capability)
  | entryMode (value : EntryMode)
  | entryModes (value : List EntryMode)
  | metadata (value : Metadata)
  | entry (value : Entry)
  /-- A value of any other type, with what tells it from the others of that type. -/
  | foreign (typeName content : String)
  deriving DecidableEq

def SymbolValue.type : SymbolValue → SymbolType
  | text _ => .text
  | fixedText _ => .fixedText
  | word32 _ => .word32
  | signed64 _ => .signed64
  | truth _ => .truth
  | errorKinds _ => .errorKinds
  | capability _ => .capability
  | entryMode _ => .entryMode
  | entryModes _ => .entryModes
  | metadata _ => .metadata
  | entry _ => .entry
  | foreign typeName _ => .foreign typeName

structure PublishedSymbol where
  serial : Nat
  value : SymbolValue
  deriving DecidableEq

structure SymbolTable where
  symbols : SortedMap String PublishedSymbol
  /-- How often something was published here. -/
  published : Nat
  deriving DecidableEq

namespace SymbolTable

def empty : SymbolTable := ⟨.empty, 0⟩

def publish (table : SymbolTable) (name : String) (value : SymbolValue) : SymbolTable where
  symbols := table.symbols.insert name ⟨table.published, value⟩
  published := table.published + 1

def ofList (symbols : List (String × SymbolValue)) : SymbolTable :=
  symbols.foldl (fun table symbol => table.publish symbol.1 symbol.2) empty

def symbol? (table : SymbolTable) (name : String) : Option PublishedSymbol :=
  table.symbols.get? name

/-- The value under a name if it has the type asked for. -/
def get? (table : SymbolTable) (type : SymbolType) (name : String) : Option SymbolValue :=
  match table.symbol? name with
  | some symbol => if symbol.value.type = type then some symbol.value else none
  | none => none

def names (table : SymbolTable) : List String :=
  table.symbols.keys

def size (table : SymbolTable) : Nat :=
  table.symbols.size

def isEmpty (table : SymbolTable) : Bool :=
  table.symbols.isEmpty

def report (table : SymbolTable) : String :=
  Quoted.set table.names

/-- Whether two tables hold the very same symbol under a name; without an answer if one of them
holds none. -/
def sameSymbol? (first second : SymbolTable) (name : String) : Option Bool := do
  let one ← first.symbol? name
  let other ← second.symbol? name
  pure (one.serial == other.serial)

end SymbolTable

end ServiceRouting
