import ServiceRouting.CommandLine.Clock
import Std.Time.DateTime.Timestamp

/-!
# The program at a terminal

Connects the program to the arguments, the environment, the files and the clock of the system.
-/

set_option autoImplicit false

namespace ServiceRouting

namespace Terminal

/-- The number of a fault, which some calls report as a negative one. -/
def faultNumber (code : UInt32) : Nat :=
  min code.toNat (-code).toNat

def faultOfNumber (code : UInt32) (problem : String) : FileFault :=
  match faultNumber code with
  | 2 => .notFound
  | 13 => .permissionDenied
  | 20 => .notADirectory
  | 21 => .isADirectory
  | 36 => .nameTooLong
  | 40 => .tooManyLinks
  | _ => .other problem

def faultOf (error : IO.Error) : FileFault :=
  match error with
  | .noFileOrDirectory _ code _ => faultOfNumber code (toString error)
  | .permissionDenied _ code _ => faultOfNumber code (toString error)
  | .inappropriateType _ code _ => faultOfNumber code (toString error)
  | .invalidArgument _ code _ => faultOfNumber code (toString error)
  | .unsatisfiedConstraints code _ => faultOfNumber code (toString error)
  | .otherError code _ => faultOfNumber code (toString error)
  | other => .other (toString other)

/-- Asks the system about a path, unless the path has a character that ends it early. -/
def ask {Result : Type} (path : String) (question : IO Result) : IO (Except FileFault Result) := do
  if path.toList.any fun char => char.toNat == 0 then return .error .zeroInPath
  try
    return .ok (← question)
  catch error =>
    return .error (faultOf error)

/-- A path is taken as an entry of the working directory; an empty one names nothing. -/
def isDirectory (path : String) : IO (Except FileFault Bool) := do
  if path = "" then return .error .notFound
  ask path do
    let found ← (IO.FS.DirEntry.mk "." path).path.metadata
    return found.type == .dir

def files : Files IO where
  read := fun path => ask path (IO.FS.readBinFile path)
  isDirectory := isDirectory

def surroundings : IO (CommandLine.Surroundings IO) := do
  let home ← IO.getEnv "HOME"
  let spec ← IO.getEnv "RUST_LOG"
  return ⟨files, homeDirectory? home none, spec⟩

def milliseconds : IO Nat := do
  let now ← Std.Time.Timestamp.now
  return now.toMillisecondsSinceUnixEpoch.val.toNat

end Terminal

end ServiceRouting

/-- Runs the program once; its notices go to the error stream. -/
def main (arguments : List String) : IO UInt32 := do
  let around ← ServiceRouting.Terminal.surroundings
  let finished ← ServiceRouting.CommandLine.runProgram around arguments
  let now ← ServiceRouting.Terminal.milliseconds
  for notice in finished.notices do
    IO.eprint (notice.textAt now)
  IO.print finished.output
  return UInt32.ofNat finished.exitCode
