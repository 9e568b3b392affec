/-!
Paths of files. A path is brought into its normal form before it is used or
shown: empty parts and parts of a single point are left out, and the path
without parts is a point. Two leading slashes are kept apart from one.
-/

namespace ShadowLint

def pathParts : List Char → List (List Char)
  | [] => [[]]
  | char :: rest =>
    match pathParts rest with
    | [] => [[char]]
    | part :: others => if char = '/' then [] :: part :: others else (char :: part) :: others

def pathSteps (path : List Char) : List (List Char) :=
  (pathParts path).filter fun part => part ≠ [] && part ≠ ['.']

def pathRoot : List Char → List Char
  | '/' :: '/' :: '/' :: _ => ['/']
  | '/' :: '/' :: _ => ['/', '/']
  | '/' :: _ => ['/']
  | _ => []

def normalPath (path : String) : String :=
  let chars := path.toList
  let normal := pathRoot chars ++ ['/'].intercalate (pathSteps chars)
  if normal.isEmpty then "." else String.ofList normal

example : normalPath "//a/./.." = "//a/.." := by decide +kernel

end ShadowLint
