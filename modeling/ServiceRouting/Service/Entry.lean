import ServiceRouting.Service.Timestamp

/-!
# Listed paths and what is known of them

An entry is a path with its metadata.  Its name is the last segment of the path together with the
slashes that end the path, so a directory keeps its trailing slash.  The name is cut from the path at
a byte that is found by looking for slashes from the end.
-/

set_option autoImplicit false

namespace ServiceRouting

inductive EntryMode where
  | file
  | dir
  | unknown
  deriving DecidableEq, Repr

namespace EntryMode

def all : List EntryMode := [file, dir, unknown]

def name : EntryMode → String
  | file => "File"
  | dir => "Dir"
  | unknown => "Unknown"

def isFile (mode : EntryMode) : Bool := mode == .file

def isDir (mode : EntryMode) : Bool := mode == .dir

end EntryMode

structure Metadata where
  mode : EntryMode
  contentLength : UInt64 := 0
  etag : Option String := none
  lastModified : Option Timestamp := none
  deriving DecidableEq, Repr

structure Entry where
  path : String
  metadata : Metadata
  deriving DecidableEq, Repr

/-! ## The last segment of a path -/

/-- A path without the slashes that end it. -/
def withoutEnding (path : List Char) : List Char :=
  (path.reverse.dropWhile (· == '/')).reverse

/-- How many bytes stand before the last slash, if there is one. -/
def lastSlash? : List Char → Option Nat
  | [] => none
  | char :: rest =>
    match lastSlash? rest with
    | some offset => some (char.utf8Size + offset)
    | none => if char = '/' then some 0 else none

namespace Entry

/-- The byte of the path at which its last segment starts. -/
def nameOffset (entry : Entry) : Nat :=
  match lastSlash? (withoutEnding entry.path.toList) with
  | some offset => offset + 1
  | none => 0

/-- The path from one of its bytes on.  There is no such text if the byte is not there or does not
start a character. -/
def pathFrom? (entry : Entry) (offset : Nat) : Option String :=
  if valid : (String.Pos.Raw.mk offset).IsValid entry.path then
    some (entry.path.sliceFrom (entry.path.pos ⟨offset⟩ valid)).copy
  else none

def name (entry : Entry) : String :=
  (entry.pathFrom? entry.nameOffset).getD ""

end Entry

end ServiceRouting
