/-!
# Asking the file system

All that routing asks of a file system is the bytes of a file and whether a path names a directory.
A faulty answer is one of the faults below, each with the text under which it is reported.
-/

set_option autoImplicit false

namespace ServiceRouting

inductive FileFault where
  | notFound
  | permissionDenied
  | notADirectory
  | isADirectory
  | nameTooLong
  | tooManyLinks
  | zeroInPath
  | notText
  | other (problem : String)
  deriving DecidableEq, Repr

def FileFault.describe : FileFault → String
  | notFound => "No such file or directory (os error 2)"
  | permissionDenied => "Permission denied (os error 13)"
  | notADirectory => "Not a directory (os error 20)"
  | isADirectory => "Is a directory (os error 21)"
  | nameTooLong => "File name too long (os error 36)"
  | tooManyLinks => "Too many levels of symbolic links (os error 40)"
  | zeroInPath => "file name contained an unexpected NUL byte"
  | notText => "stream did not contain valid UTF-8"
  | other problem => problem

/-- Access to files, with answers in some monad: a fixed tree answers at once, a live system may
answer differently every time. -/
structure Files (m : Type → Type) where
  read : String → m (Except FileFault ByteArray)
  isDirectory : String → m (Except FileFault Bool)

/-- The text in the bytes of a file. -/
def decodeText (bytes : ByteArray) : Except FileFault String :=
  match String.fromUTF8? bytes with
  | some text => .ok text
  | none => .error .notText

end ServiceRouting
