import ServiceRouting.File.Access
import ServiceRouting.Text.Pieces

/-!
# File trees

A tree of directories, files and symbolic links, and the resolution of paths in it.  A path is
followed segment by segment; links are replaced by their targets, at most forty of them in one
resolution.  A path that ends in a slash must name a directory.
-/

set_option autoImplicit false

namespace ServiceRouting

inductive FileNode where
  | directory
  | file (bytes : ByteArray)
  | link (target : String)

/-- Nodes are kept under the segments of their absolute paths; the latest one under a path counts.
-/
structure FileTree where
  nodes : List (List String × FileNode)
  workingDirectory : List String

namespace FileTree

def linkLimit : Nat := 40

def segmentLimit : Nat := 255

def pathLimit : Nat := 4096

/-- The top of the tree is always a directory. -/
def node? (tree : FileTree) : List String → Option FileNode
  | [] => some .directory
  | path => tree.nodes.lookup path

def isAbsolute (path : String) : Bool :=
  path.startsWith "/"

/-- Where the segments of a path are followed from. -/
def base (current : List String) (path : String) : List String :=
  if isAbsolute path then [] else current

/-- Follows segments from a directory, through at most `links` links. -/
def walk (tree : FileTree) (links : Nat) (current : List String) :
    List String → Except FileFault FileNode
  | [] => .ok .directory
  | segment :: rest =>
    if segment = "" ∨ segment = "." then tree.walk links current rest
    else if segment = ".." then tree.walk links current.dropLast rest
    else if segmentLimit < segment.utf8ByteSize then .error .nameTooLong
    else
      match tree.node? (current ++ [segment]) with
      | none => .error .notFound
      | some .directory => tree.walk links (current ++ [segment]) rest
      | some (.file bytes) => if rest = [] then .ok (.file bytes) else .error .notADirectory
      | some (.link target) =>
        match links with
        | 0 => .error .tooManyLinks
        | links + 1 =>
          tree.walk links (base current target) (Pieces.ofText '/' target ++ rest)
termination_by segments => (links, segments.length)

/-- The node that a path names; it is never a link. -/
def resolve (tree : FileTree) (path : String) : Except FileFault FileNode :=
  if path.toList.any (·.toNat == 0) then .error .zeroInPath
  else if path = "" then .error .notFound
  else if pathLimit ≤ path.utf8ByteSize then .error .nameTooLong
  else tree.walk linkLimit (base tree.workingDirectory path) (Pieces.ofText '/' path)

def read (tree : FileTree) (path : String) : Except FileFault ByteArray :=
  match tree.resolve path with
  | .error fault => .error fault
  | .ok (.file bytes) => .ok bytes
  | .ok _ => .error .isADirectory

def isDirectory (tree : FileTree) (path : String) : Except FileFault Bool :=
  match tree.resolve path with
  | .error fault => .error fault
  | .ok .directory => .ok true
  | .ok _ => .ok false

def files (tree : FileTree) : Files Id where
  read := tree.read
  isDirectory := tree.isDirectory

/-! ## Growing a tree -/

/-- Where segments lead from a directory, through at most `links` links.  Names under which nothing
stands yet are taken as they are. -/
def locate (tree : FileTree) (links : Nat) (current : List String) :
    List String → Option (List String)
  | [] => some current
  | segment :: rest =>
    if segment = "" ∨ segment = "." then tree.locate links current rest
    else if segment = ".." then tree.locate links current.dropLast rest
    else
      match tree.node? (current ++ [segment]) with
      | some (.link target) =>
        match links with
        | 0 => none
        | links + 1 =>
          tree.locate links (base current target) (Pieces.ofText '/' target ++ rest)
      | _ => tree.locate links (current ++ [segment]) rest
termination_by segments => (links, segments.length)

/-- The place that a path names; a link at its end is followed unless the last segment is to be kept. -/
def placeOf (tree : FileTree) (path : String) (keepLast : Bool) : Option (List String) :=
  let start := base tree.workingDirectory path
  let segments := Pieces.ofText '/' path
  if keepLast then
    (tree.locate linkLimit start segments.dropLast).map (· ++ segments.getLast?.toList)
  else tree.locate linkLimit start segments

/-- Makes the directories on the way to a place, outermost first, where nothing stands yet. -/
def makeParents (tree : FileTree) (place : List String) : FileTree :=
  ((List.range' 1 (place.length - 1)).map place.take).foldl
    (fun current parent =>
      match current.node? parent with
      | none => { current with nodes := (parent, .directory) :: current.nodes }
      | some _ => current)
    tree

def putAt (tree : FileTree) (node : FileNode) (place : List String) : FileTree :=
  let grown := tree.makeParents place
  { grown with nodes := (place, node) :: grown.nodes }

/-- Puts a node at a path, with the directories on the way.  Files and directories come to stand
where the links of the path lead; a link stands at the path itself.  A path that leads nowhere
changes nothing. -/
def place (tree : FileTree) (path : String) (node : FileNode) : FileTree :=
  let keepLast := match node with
    | .link _ => true
    | _ => false
  ((tree.placeOf path keepLast).map (tree.putAt node)).getD tree

end FileTree

end ServiceRouting
