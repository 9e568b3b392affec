import ShadowLint.Dump.Lexeme

/-!
Dumps as they are written, before names and numbers are given a meaning. A
written tree is an opening parenthesis, a name, any number of attributes, the
written children, and a closing parenthesis, with layout after each part.
-/

namespace ShadowLint.Dump

inductive Attribute where
  | text (content : List Char)
  | position (line column : List Char)
  deriving DecidableEq, Repr

/-- A tree as it is written. The input from the name on is kept to tell the
place of a name that means nothing. -/
inductive Written where
  | node (name : List Char) (fromName : List Char) (attributes : List Attribute)
      (children : List Written)
  deriving Repr, Inhabited

def position? (input : List Char) : Option (Attribute × List Char) :=
  match digits? input with
  | none => none
  | some (line, rest) =>
    match rest with
    | ':' :: rest => (digits? rest).map fun (column, rest) => (.position line column, rest)
    | _ => none

def attribute? : List Char → Option (Attribute × List Char)
  | '"' :: rest => (quotedText? rest).map fun (content, rest) => (.text content, rest)
  | '@' :: rest => position? rest
  | _ => none

/-- Reads attributes as long as there are any; `done` holds those read so far,
last first. Every attribute takes a character, so that the length of the input
is fuel enough. -/
def readAttributes : (fuel : Nat) → (done : List Attribute) → List Char →
    List Attribute × List Char
  | 0, done, input => (done.reverse, input)
  | fuel + 1, done, input =>
    match attribute? input with
    | none => (done.reverse, input)
    | some (found, rest) => readAttributes fuel (found :: done) (skipLayout rest)

/-- Reads trees as long as there are complete ones; `done` holds those read so
far, last first. A tree that is not complete is not read at all, and the input
stays at its opening parenthesis. Every tree takes a character, so that the
length of the input is fuel enough. -/
def readTrees : (fuel : Nat) → (done : List Written) → List Char → List Written × List Char
  | 0, done, input => (done.reverse, input)
  | fuel + 1, done, input =>
    match input with
    | '(' :: rest =>
      match name? (skipLayout rest) with
      | none => (done.reverse, input)
      | some (name, afterName) =>
        let (attributes, inner) := readAttributes fuel [] (skipLayout afterName)
        let (children, closing) := readTrees fuel [] inner
        match closing with
        | ')' :: after =>
          let tree := .node name (skipLayout rest) attributes children
          readTrees fuel (tree :: done) (skipLayout after)
        | _ => (done.reverse, input)
    | _ => (done.reverse, input)

def readForest (text : List Char) : List Written × List Char :=
  readTrees text.length [] (skipLayout text)

end ShadowLint.Dump
