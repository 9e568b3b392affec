import ShadowLint.Text.Quoted

/-!
Why a file cannot be read.
-/

namespace ShadowLint

inductive FileFault where
  | notFound (path : String)
  | isDirectory (path : String)
  /-- A part of the path that is not its last one is a file. -/
  | notDirectory (path : String)
  | nameTooLong (path : String)
  deriving DecidableEq, Repr

namespace FileFault

def number : FileFault → Nat
  | notFound _ => 2
  | notDirectory _ => 20
  | isDirectory _ => 21
  | nameTooLong _ => 36

def reason : FileFault → String
  | notFound _ => "No such file or directory"
  | notDirectory _ => "Not a directory"
  | isDirectory _ => "Is a directory"
  | nameTooLong _ => "File name too long"

def path : FileFault → String
  | notFound path => path
  | isDirectory path => path
  | notDirectory path => path
  | nameTooLong path => path

def message (fault : FileFault) : String :=
  s!"[Errno {fault.number}] {fault.reason}: {Text.quoted fault.path}"

example : (notFound "a").message = "[Errno 2] No such file or directory: 'a'" := by
  decide +kernel

end FileFault

/-- The files that can be read: for each path in normal form the bytes of the file,
or why there are none. -/
structure Files where
  read : (path : String) → Except FileFault (List UInt8)

end ShadowLint
