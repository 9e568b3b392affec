import ShadowLint.File.Fault
import ShadowLint.File.Path

/-!
A folder of files given by their names, and what its paths lead to.
-/

namespace ShadowLint

inductive FileContent where
  | bytes (bytes : List UInt8)
  | directory

/-- A folder: every name is a path from the folder, by its steps. -/
structure Folder where
  items : List (List (List Char) × FileContent)

namespace Folder

def ofNames (items : List (String × FileContent)) : Folder :=
  ⟨items.map fun (name, content) => (pathSteps name.toList, content)⟩

def contentAt? (folder : Folder) (place : List (List Char)) : Option FileContent :=
  match folder.items.lookup place with
  | some content => some content
  | none =>
    if place.isEmpty || folder.items.any fun item => place.isPrefixOf item.1 then
      some .directory
    else none

def follow (folder : Folder) (path : String) (place : List (List Char)) :
    (steps : List (List Char)) → Except FileFault FileContent
  | [] =>
    match folder.contentAt? place with
    | some content => .ok content
    | none => .error (.notFound path)
  | step :: rest =>
    match folder.contentAt? place with
    | some (.bytes _) => .error (.notDirectory path)
    | none => .error (.notFound path)
    | some .directory =>
      if step = ['.', '.'] then folder.follow path place.dropLast rest
      else folder.follow path (place ++ [step]) rest

def nameLimit : Nat := 255

def files (folder : Folder) : Files where
  read path :=
    let steps := pathSteps path.toList
    if steps.any fun step => nameLimit < (String.ofList step).utf8ByteSize then
      .error (.nameTooLong path)
    else
      match folder.follow path [] steps with
      | .error fault => .error fault
      | .ok .directory => .error (.isDirectory path)
      | .ok (.bytes bytes) => .ok bytes

end Folder

end ShadowLint
