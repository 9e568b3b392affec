import ShadowLint.Pattern.Fault
import ShadowLint.Pattern.Flags
import ShadowLint.Pattern.Regex
import ShadowLint.Pattern.Token

/-!
How far a pattern has been read. The groups that are open lie on a stack of
levels; each level holds its finished alternatives and the pieces of the one that
is being read.
-/

namespace ShadowLint.Pattern

structure Width where
  least : Nat
  greatest : Nat
  deriving DecidableEq, Repr

namespace Width

/-- Widths are not told apart beyond this one. -/
def limit : Nat := Nat.pow 2 64

def capped (width : Width) : Width := ⟨min width.least limit, min width.greatest limit⟩

def zero : Width := ⟨0, 0⟩

def one : Width := ⟨1, 1⟩

def add (left right : Width) : Width :=
  ⟨left.least + right.least, left.greatest + right.greatest⟩

def either (left right : Width) : Width :=
  ⟨min left.least right.least, max left.greatest right.greatest⟩

def repeated (width : Width) (least : Nat) (most : Option Nat) : Width :=
  ⟨width.least * least,
    match most with
    | none => if width.greatest = 0 then 0 else limit
    | some most => width.greatest * most⟩

end Width

inductive Shape where
  | anchor
  | repeated
  | other
  deriving DecidableEq, Repr

structure Piece where
  /-- An offset in the piece that comes before those of its parts. -/
  place : Nat
  shape : Shape
  regex : Regex
  width : Width
  deriving Repr

inductive Opening where
  | whole
  | capture (group : Nat)
  | plain
  | atomic
  | ahead (negated : Bool)
  /-- The first group that a lookbehind around this one may not refer to. -/
  | behind (negated : Bool) (outer : Option Nat)
  | conditional (group : Nat)
  deriving DecidableEq, Repr

/-- A level of open parentheses, with the offset of its parenthesis. Alternatives
and pieces are held last first. -/
structure Level where
  opening : Opening
  start : Nat
  flags : Flags
  alternatives : List Piece
  pieces : List Piece

namespace Level

def alternative (level : Level) : Piece :=
  let pieces := level.pieces.reverse
  { place := level.start, shape := .other
    regex := pieces.foldr (fun piece rest => .sequence piece.regex rest) .empty
    width := (pieces.foldl (fun width piece => Width.add width piece.width) Width.zero).capped }

def content (level : Level) : Piece :=
  level.alternatives.foldl
    (fun later earlier =>
      { place := level.start, shape := .other
        regex := .alternative earlier.regex later.regex
        width := (earlier.width.either later.width).capped })
    level.alternative

end Level

structure State where
  rest : List Token
  offset : Nat
  /-- A lone backslash comes after the rest. -/
  dangling : Bool
  level : Level
  outer : List Level
  /-- The widths of the groups, in order; an open group has none yet. -/
  groups : Array (Option Width)
  names : List (String × Nat)
  /-- Inside a lookbehind, the first group that it may not refer to. -/
  lookbehindGroups : Option Nat
  /-- Groups that conditions ask for, with the offsets where they first do. -/
  asked : List (Nat × Nat)
  /-- What is wrong but reported only after the whole pattern was read, with the
  offsets of the pieces. -/
  lateFaults : List (Nat × Cause)

abbrev Read := StateT State (Except Fault)

namespace Read

/-- Stops with a fault `back` characters before the place that was reached. -/
def fail {α : Type} (cause : Cause) (back : Nat) : Read α := do
  throw (.malformed cause (some ((← get).offset - back)))

def failAt {α : Type} (cause : Cause) (offset : Nat) : Read α :=
  throw (.malformed cause (some offset))

def offset : Read Nat := return (← get).offset

def peek : Read (Option Token) := return (← get).rest.head?

/-- Passes over the next token and answers it. A lone backslash is found out as
soon as it comes next. -/
def next : Read (Option Token) := do
  let state ← get
  match state.rest with
  | [] => return none
  | token :: rest =>
    let offset := state.offset + token.length
    if rest.isEmpty && state.dangling then throw (.malformed .escapeAtEnd (some offset))
    set { state with rest, offset }
    return some token

def accept (char : Char) : Read Bool := do
  if (← peek) = some (.plain char) then
    let _ ← next
    return true
  return false

def upTo (count : Nat) (test : Char → Bool) : Read (List Char) :=
  match count with
  | 0 => return []
  | count + 1 => do
    match ← peek with
    | some (.plain char) =>
      if test char then
        let _ ← next
        return char :: (← upTo count test)
      else return []
    | _ => return []

def addAt (place : Nat) (shape : Shape) (regex : Regex) (width : Width) : Read Unit := do
  modify fun state =>
    { state with level := { state.level with
        pieces := ⟨place, shape, regex, width⟩ :: state.level.pieces } }

def add (shape : Shape) (regex : Regex) (width : Width) : Read Unit := do
  addAt ((← get).offset - 1) shape regex width

def addLateFault (place : Nat) (cause : Cause) : Read Unit := do
  modify fun state => { state with lateFaults := (place, cause) :: state.lateFaults }

end Read

end ShadowLint.Pattern
