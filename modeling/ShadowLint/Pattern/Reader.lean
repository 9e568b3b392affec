import ShadowLint.Pattern.CharacterSet
import ShadowLint.Pattern.Group

/-!
Reading a text as a pattern. The text is gone through token by token; every step
passes over at least one, so that their number bounds the steps.
-/

namespace ShadowLint.Pattern

namespace Read

/-! ## Repetition -/

private def repeatLimit : Nat := 4294967295

private def checkedNumber (digits : List Char) : Read Nat := do
  let number := numberIn 10 digits
  if repeatLimit ≤ number then throw .repeatTooLarge
  return number

/-- The limits of a repetition whose opening brace was just passed; `none` if the
brace stands for itself. -/
def limits : Read (Option (Nat × Option Nat)) := do
  let here ← offset
  let fuel := (← get).rest.length
  let least ← upTo fuel Char.isDigit
  let most ← if ← accept ',' then upTo fuel Char.isDigit else pure least
  unless ← accept '\x7d' do return none
  let low ← if least.isEmpty then pure 0 else checkedNumber least
  if most.isEmpty then return some (low, none)
  let high ← checkedNumber most
  if high < low then failAt .repeatLimitsCrossed here
  return some (low, some high)

def preferenceMark : Read Preference := do
  match ← peek with
  | some (.plain '?') =>
    let _ ← next
    return .fewest
  | some (.plain '+') =>
    let _ ← next
    return .mostOnly
  | _ => return .most

def repeatLast (here least : Nat) (most : Option Nat) : Read Unit := do
  let state ← get
  match state.level.pieces with
  | [] => failAt .nothingToRepeat (here - 1)
  | piece :: earlier =>
    if piece.shape = .anchor then failAt .nothingToRepeat (here - 1)
    if piece.shape = .repeated then failAt .multipleRepeat (here - 1)
    let preference ← preferenceMark
    modify fun state => { state with level := { state.level with pieces := earlier } }
    if state.level.flags.contains .template then
      addLateFault piece.place (.templateRepetition preference.operator)
    addAt piece.place .repeated (.repeated preference least most piece.regex)
      (piece.width.repeated least most)

def addBrace : Read Unit := do
  let before ← get
  if before.rest.head? = some (.plain '\x7d') then addLiteral 123
  else
    match ← limits with
    | some (least, most) => repeatLast before.offset least most
    | none =>
      set before
      addLiteral 123

/-! ## Steps -/

def skipLine : (fuel : Nat) → Read Unit
  | 0 => return ()
  | fuel + 1 => do
    match ← next with
    | none => return ()
    | some token => unless token = .plain '\n' do skipLine fuel

private def isVerboseBlank (char : Char) : Bool :=
  char = ' ' || (9 ≤ char.toNat && char.toNat ≤ 13)

def addChar (char : Char) : Read Unit := do
  let here ← offset
  let current ← flags
  if current.contains .verbose && isVerboseBlank char then return ()
  if current.contains .verbose && char = '#' then
    skipLine ((← get).rest.length + 1)
    return ()
  match char with
  | '[' => addSet
  | '*' => repeatLast here 0 none
  | '+' => repeatLast here 1 none
  | '?' => repeatLast here 0 (some 1)
  | '\x7b' => addBrace
  | '.' => add .other (.single (.any (current.contains .dotAll))) .one
  | '(' => openGroup
  | '^' =>
    add .anchor (.anchor (if current.contains .multiline then .lineStart else .textStart)) .zero
  | '$' =>
    add .anchor (.anchor (if current.contains .multiline then .lineEnd else .lastLineEnd)) .zero
  | _ => addLiteral char.toNat

def checkAlphabet : Read Unit := do
  let state ← get
  let flags := ((state.level :: state.outer).getLastD state.level).flags
  if flags.contains .ascii && flags.contains .unicode then throw .mixedAlphabets

def endAlternative : Read Unit := do
  let state ← get
  let level := state.level
  if level.opening matches .conditional _ && !level.alternatives.isEmpty then
    fail .thirdBranch 0
  let _ ← next
  modify fun state =>
    { state with level := { level with
        alternatives := level.alternative :: level.alternatives, pieces := [] } }

def endGroup : Read Unit := do
  let state ← get
  match state.outer with
  | [] =>
    checkAlphabet
    fail .unbalanced 0
  | outer :: others =>
    let _ ← next
    let piece ← closeLevel state.level
    modify fun state =>
      { state with level := { outer with pieces := piece :: outer.pieces }, outer := others }

def step (token : Token) : Read Unit := do
  match token with
  | .plain '|' => endAlternative
  | .plain ')' => endGroup
  | .plain char =>
    let _ ← next
    addChar char
  | .escaped char =>
    let _ ← next
    addEscape char

def steps : (fuel : Nat) → Read Unit
  | 0 => return ()
  | fuel + 1 => do
    match ← peek with
    | none => return ()
    | some token =>
      step token
      steps fuel

def finish : Read Regex := do
  let state ← get
  unless state.outer.isEmpty do failAt .unterminatedGroup state.level.start
  checkAlphabet
  match state.asked.find? fun asked => state.groups.size < asked.1 with
  | some (group, offset) => failAt (.noGroup group) offset
  | none => pure ()
  match state.lateFaults.mergeSort fun left right => left.1 ≤ right.1 with
  | (_, cause) :: _ => throw (.malformed cause none)
  | [] => return state.level.content.regex

end Read

def read (pattern : String) : Except Fault Regex :=
  let (tokens, dangling) := tokensOf pattern.toList
  let state : State :=
    { rest := tokens, offset := 0, dangling
      level := { opening := .whole, start := 0, flags := [], alternatives := [], pieces := [] }
      outer := [], groups := #[], names := [], lookbehindGroups := none, asked := []
      lateFaults := [] }
  if tokens.isEmpty && dangling then .error (.malformed .escapeAtEnd (some 0))
  else (do Read.steps (tokens.length + 1); Read.finish : Read Regex).run' state

end ShadowLint.Pattern
