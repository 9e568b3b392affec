import ShadowLint.Dump.Error
import ShadowLint.Dump.Nesting
import ShadowLint.Dump.Written

/-!
The trees that a dump stands for. A text is refused for its nesting first, then
for text that belongs to no complete tree, and then for the first name or number,
in the order in which they are written, that has no meaning.
-/

namespace ShadowLint.Dump

inductive Flaw where
  | unknownKind (name : List Char) (fromName : List Char)
  | numberTooLong (digits : Nat)

def number (digits : List Char) : Except Flaw Int :=
  if Json.digitLimit < digits.length then .error (.numberTooLong digits.length)
  else .ok (digits.foldl (fun value digit => 10 * value + (digit.toNat - 48)) 0 : Nat)

/-- What the attributes of a node say: of several texts or positions the last
one counts. -/
structure Reading where
  text : List Char
  line : Int
  column : Int

def readingOf (reading : Reading) : List Attribute → Except Flaw Reading
  | [] => .ok reading
  | .text content :: rest => readingOf { reading with text := content } rest
  | .position line column :: rest =>
    match number line with
    | .error flaw => .error flaw
    | .ok line =>
      match number column with
      | .error flaw => .error flaw
      | .ok column => readingOf { reading with line, column } rest

mutual

/-- The tree that a written tree stands for, or its first flaw: name before
attributes before children. -/
def meaning : Written → Except Flaw Tree
  | .node name fromName attributes children =>
    match Kind.ofName? (String.ofList name) with
    | none => .error (.unknownKind name fromName)
    | some kind =>
      match readingOf ⟨[], 0, 0⟩ attributes with
      | .error flaw => .error flaw
      | .ok reading =>
        match meanings children with
        | .error flaw => .error flaw
        | .ok children =>
          .ok (.node (.make kind (String.ofList reading.text) reading.line reading.column) children)

def meanings : List Written → Except Flaw (List Tree)
  | [] => .ok []
  | written :: rest =>
    match meaning written with
    | .error flaw => .error flaw
    | .ok tree =>
      match meanings rest with
      | .error flaw => .error flaw
      | .ok trees => .ok (tree :: trees)

end

def placeOfRest (text rest : List Char) : Text.Place :=
  Text.placeAt text (text.length - rest.length)

def checkNesting (text : List Char) : Except DumpError Nat :=
  match nesting text with
  | .ok depth => .ok depth
  | .error rest => .error (.tooDeep nestingLimit (placeOfRest text rest))

def treesOf (text : List Char) : Except DumpError (List Tree) :=
  match readForest text with
  | (written, []) =>
    match meanings written with
    | .ok trees => .ok trees
    | .error (.unknownKind name fromName) =>
      .error (.unknownKind (String.ofList name) (placeOfRest text fromName))
    | .error (.numberTooLong digits) => .error (.numberTooLong digits)
  | (_, rest) => .error (.extraText (placeOfRest text rest))

def loadTrees (text : List Char) : Except DumpError (List Tree) :=
  match checkNesting text with
  | .error error => .error error
  | .ok _ => treesOf text

def loadTree (text : List Char) : Except DumpError Tree :=
  match loadTrees text with
  | .error error => .error error
  | .ok [tree] => .ok tree
  | .ok trees => .error (.notOneTree trees.length)

end ShadowLint.Dump
