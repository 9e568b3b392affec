import ShadowLint.Pattern.State
import ShadowLint.Text.CharacterName

/-!
Escapes: characters by number, classes of characters, tests, and references to
groups.
-/

namespace ShadowLint.Pattern

def isOctal (char : Char) : Bool := '0' ≤ char && char ≤ '7'

def digitValue (char : Char) : Nat :=
  if char.isDigit then char.toNat - 48
  else if char.isUpper then char.toNat - 55
  else char.toNat - 87

def isHex (char : Char) : Bool :=
  char.isDigit || ('a' ≤ char && char ≤ 'f') || ('A' ≤ char && char ≤ 'F')

def numberIn (base : Nat) (digits : List Char) : Nat :=
  digits.foldl (fun value digit => base * value + digitValue digit) 0

def controlEscape? : Char → Option Nat
  | 'a' => some 7
  | 'b' => some 8
  | 'f' => some 12
  | 'n' => some 10
  | 'r' => some 13
  | 't' => some 9
  | 'v' => some 11
  | '\\' => some 92
  | _ => none

def categoryEscape? : Char → Option Member
  | 'd' => some (.category .digit false)
  | 'D' => some (.category .digit true)
  | 's' => some (.category .blank false)
  | 'S' => some (.category .blank true)
  | 'w' => some (.category .word false)
  | 'W' => some (.category .word true)
  | _ => none

def anchorEscape? (asciiOnly : Bool) : Char → Option Anchor
  | 'A' => some .textStart
  | 'b' => some (.wordBoundary asciiOnly false)
  | 'B' => some (.wordBoundary asciiOnly true)
  | 'Z' => some .textEnd
  | _ => none

namespace Read

def failEscape {α : Type} (cause : String → Cause) (escape : List Char) : Read α :=
  fail (cause (String.ofList escape)) escape.length

def hexEscape (mark : Char) (count : Nat) : Read Nat := do
  let digits ← upTo count isHex
  let escape := '\\' :: mark :: digits
  if digits.length < count then failEscape .incompleteEscape escape
  let code := numberIn 16 digits
  if 0x10FFFF < code then failEscape .badEscape escape
  return code

def untilFrom (terminator : Char) (what : String) : (fuel : Nat) → (done : List Char) →
    Read (List Char)
  | 0, done => return done
  | fuel + 1, done => do
    match ← next with
    | none =>
      if done.isEmpty then fail (.missing what) 0
      else fail (.unterminatedName terminator) done.length
    | some token =>
      if token = .plain terminator then
        if done.isEmpty then fail (.missing what) 1
        return done
      else untilFrom terminator what fuel (done ++ token.chars)

def upToTerminator (terminator : Char) (what : String) : Read (List Char) := do
  untilFrom terminator what ((← get).rest.length + 1) []

/-- An escape by the name of a character, which has to be one of those known here. -/
def namedEscape : Read Nat := do
  unless ← accept '\x7b' do fail (.missing "\x7b") 0
  let name ← upToTerminator '\x7d' "character name"
  match Text.characterNamed? name with
  | some code => return code
  | none => fail (.unknownCharacterName (String.ofList name)) (name.length + 4)

/-- A group may be referred to if it is closed, and inside a lookbehind only if it
was opened before. -/
def checkLookbehind (group : Nat) : Read Unit := do
  let state ← get
  match state.lookbehindGroups with
  | none => return ()
  | some limit =>
    if (state.groups[group - 1]?.join).isNone then fail .openGroup 0
    if limit ≤ group then fail .groupInLookbehind 0

def flags : Read Flags := return (← get).level.flags

def addLiteral (code : Nat) : Read Unit := do
  add .other (.single (.literal (← flags).mode false code)) .one

def addReference (group back : Nat) : Read Unit := do
  match (← get).groups[group - 1]?.join with
  | none => fail .openGroup back
  | some width =>
    checkLookbehind group
    add .other (.backreference group (← flags).mode) width

/-- An escape that starts with a digit other than zero: an octal number if three
octal digits stand there, and otherwise a reference. -/
def digitEscape (first : Char) : Read Unit := do
  let second ← upTo 1 Char.isDigit
  let third ← if isOctal first && second.any isOctal then upTo 1 isOctal else pure []
  let digits := first :: second ++ third
  let escape := '\\' :: digits
  if third.isEmpty then
    let group := numberIn 10 digits
    if group ≤ (← get).groups.size then addReference group escape.length
    else fail (.noGroup group) digits.length
  else
    let code := numberIn 8 digits
    if 0o377 < code then failEscape .octalTooLarge escape
    addLiteral code

def addEscape (char : Char) : Read Unit := do
  let current ← flags
  match anchorEscape? (current.contains .ascii) char with
  | some anchor => add .anchor (.anchor anchor) .zero
  | none =>
  match categoryEscape? char with
  | some member => add .other (.single (.set current.mode false [member])) .one
  | none =>
  match controlEscape? char with
  | some code => addLiteral code
  | none =>
  match char with
  | 'x' => addLiteral (← hexEscape 'x' 2)
  | 'u' => addLiteral (← hexEscape 'u' 4)
  | 'U' => addLiteral (← hexEscape 'U' 8)
  | 'N' => addLiteral (← namedEscape)
  | '0' => addLiteral (numberIn 8 (← upTo 2 isOctal))
  | _ =>
    if char.isDigit then digitEscape char
    else if char.isAlpha then failEscape .badEscape ['\\', char]
    else addLiteral char.toNat

def memberEscape (char : Char) : Read Member := do
  match controlEscape? char with
  | some code => return .single code
  | none =>
  match categoryEscape? char with
  | some member => return member
  | none =>
  match char with
  | 'x' => return .single (← hexEscape 'x' 2)
  | 'u' => return .single (← hexEscape 'u' 4)
  | 'U' => return .single (← hexEscape 'U' 8)
  | 'N' => return .single (← namedEscape)
  | _ =>
    if isOctal char then
      let digits := char :: (← upTo 2 isOctal)
      let code := numberIn 8 digits
      if 0o377 < code then failEscape .octalTooLarge ('\\' :: digits)
      return .single code
    else if char.isDigit || char.isAlpha then failEscape .badEscape ['\\', char]
    else return .single char.toNat

end Read

end ShadowLint.Pattern
