import ShadowLint.Pattern.Escape

/-!
Everything that starts with a parenthesis: groups, assertions, conditions,
comments and flags.
-/

namespace ShadowLint.Pattern.Read

/-! ## Levels -/

def openLevel (opening : Opening) (start : Nat) (flags : Flags) : Read Unit := do
  modify fun state =>
    { state with
      level := { opening, start, flags, alternatives := [], pieces := [] }
      outer := state.level :: state.outer }

def openCapture (start : Nat) (name : Option (List Char)) : Read Unit := do
  let state ← get
  let group := state.groups.size + 1
  let names ← match name with
    | none => pure state.names
    | some name =>
      match state.names.lookup (String.ofList name) with
      | some earlier =>
        fail (.redefinedGroup (String.ofList name) group earlier) (name.length + 1)
      | none => pure ((String.ofList name, group) :: state.names)
  modify fun state => { state with names, groups := state.groups.push none }
  openLevel (.capture group) start (← flags)

def pieceOf (opening : Opening) (content : Piece) : Piece :=
  let place := content.place
  let piece (regex : Regex) : Piece := ⟨place, .other, regex, content.width⟩
  match opening with
  | .whole | .plain => piece content.regex
  | .capture group => piece (.capture group content.regex)
  | .atomic => piece (.atomic content.regex)
  | .ahead negated => ⟨place, .other, .look none negated content.regex, .zero⟩
  | .behind negated _ =>
    ⟨place, .other, .look (some content.width.least) negated content.regex, .zero⟩
  | .conditional _ => content

/-- The piece of a condition: a missing second branch matches nothing at all. -/
def conditionPiece (group : Nat) (level : Level) : Piece :=
  match level.alternatives with
  | [] =>
    let yes := level.alternative
    ⟨level.start, .other, .conditional group yes.regex .empty, ⟨0, yes.width.greatest⟩⟩
  | yes :: _ =>
    let no := level.alternative
    ⟨level.start, .other, .conditional group yes.regex no.regex, yes.width.either no.width⟩

private def lookbehindLimit : Nat := Nat.pow 2 32

def closeLevel (level : Level) : Read Piece := do
  let content := level.content
  match level.opening with
  | .conditional group => return conditionPiece group level
  | .capture group =>
    modify fun state =>
      { state with groups := state.groups.set! (group - 1) (some content.width) }
  | .behind _ outer =>
    let width := content.width
    modify fun state =>
      { state with lookbehindGroups := if outer.isNone then none else state.lookbehindGroups }
    if lookbehindLimit ≤ width.least then addLateFault level.start .farLookbehind
    else if width.least ≠ width.greatest then addLateFault level.start .variableLookbehind
  | _ => pure ()
  return pieceOf level.opening content

/-! ## Names and numbers of groups -/

def groupName (terminator : Char) : Read (List Char) := do
  let name ← upToTerminator terminator "group name"
  unless Text.isIdentifier name do
    fail (.badGroupName (String.ofList name)) (name.length + 1)
  return name

/-- The digits of a number that single underscores may part. -/
private def digitsOf? : List Char → Option (List Nat)
  | [] => none
  | [last] => (Text.decimalValue? last).map ([·])
  | first :: '_' :: rest => do return (← Text.decimalValue? first) :: (← digitsOf? rest)
  | first :: rest => do return (← Text.decimalValue? first) :: (← digitsOf? rest)

/-- The number a condition asks for, if the text is one: digits of any script,
with white space around them and a sign before them. -/
def conditionNumber? (text : List Char) : Option Nat :=
  let digits (text : List Char) : Option Nat :=
    (digitsOf? text).map fun digits => digits.foldl (fun value digit => 10 * value + digit) 0
  match Text.trimBlanks text with
  | '+' :: rest => digits rest
  | '-' :: rest => (digits rest).filter (· = 0)
  | text => digits text

private def groupLimit : Nat := 1073741823

def openCondition (start : Nat) : Read Unit := do
  let name ← upToTerminator ')' "group name"
  let back := name.length + 1
  let group ←
    if Text.isIdentifier name then
      match (← get).names.lookup (String.ofList name) with
      | none => fail (.unknownGroup (String.ofList name)) back
      | some group => pure group
    else
      match conditionNumber? name with
      | none => fail (.badGroupName (String.ofList name)) back
      | some group =>
        if group = 0 then fail .badGroupNumber back
        if groupLimit ≤ group then fail (.noGroup group) back
        modify fun state =>
          if (state.asked.lookup group).isSome then state
          else { state with asked := state.asked ++ [(group, state.offset - back)] }
        pure group
  checkLookbehind group
  openLevel (.conditional group) start (← flags)

/-! ## Flags -/

def flagOf (token : Token) (otherwise : Cause) : Read Flag :=
  let bad (isLetter : Bool) : Read Flag :=
    fail (if isLetter then .unknownFlag else otherwise) token.length
  match token with
  | .escaped _ => bad false
  | .plain char =>
    match Flag.ofChar? char with
    | some flag => return flag
    | none => bad (Text.isAlphanumeric char && !Text.isDecimalDigit char)

def addedFlags : (fuel : Nat) → (done : Flags) → Flag → Read (Flags × Char)
  | 0, done, _ => return (done, ')')
  | fuel + 1, done, flag => do
    if flag = .locale then fail .localeFlag 0
    let done := if done.contains flag then done else done ++ [flag]
    if flag.isAlphabet && (done.filter Flag.isAlphabet) ≠ [flag] then
      fail .incompatibleFlags 0
    match ← next with
    | none => fail .missingFlagEnd 0
    | some token =>
      match token with
      | .plain ')' => return (done, ')')
      | .plain '-' => return (done, '-')
      | .plain ':' => return (done, ':')
      | _ => addedFlags fuel done (← flagOf token .missingFlagEnd)

def removedFlags : (fuel : Nat) → (done : Flags) → Flag → Read Flags
  | 0, done, _ => return done
  | fuel + 1, done, flag => do
    if flag.isAlphabet then fail .removedAlphabetFlag 0
    let done := done ++ [flag]
    match ← next with
    | none => fail .missingColon 0
    | some (.plain ':') => return done
    | some token => removedFlags fuel done (← flagOf token .missingColon)

def setGlobalFlags (start : Nat) (added : Flags) : Read Unit := do
  let state ← get
  let isStart := state.outer.isEmpty && state.level.alternatives.isEmpty &&
    state.level.pieces.isEmpty
  unless isStart do failAt .lateFlags start
  modify fun state =>
    { state with level := { state.level with flags := state.level.flags ++ added } }

def openFlags (start : Nat) (first : Token) : Read Unit := do
  let fuel := (← get).rest.length + 1
  let (added, ending) ←
    if first = .plain '-' then pure ([], '-')
    else addedFlags fuel [] (← flagOf first .missingFlag)
  if ending = ')' then setGlobalFlags start added
  else
    if added.contains .template then fail .addedTemplateFlag 1
    let removed ←
      if ending = '-' then
        match ← next with
        | none => fail .missingFlag 0
        | some token => removedFlags fuel [] (← flagOf token .missingFlag)
      else pure []
    if removed.contains .template then fail .removedTemplateFlag 1
    if added.any removed.contains then fail .flagOnAndOff 1
    openLevel .plain start ((← flags).within added removed)

/-! ## Groups -/

def skipCommentFrom (start : Nat) : (fuel : Nat) → Read Unit
  | 0 => return ()
  | fuel + 1 => do
    match ← next with
    | none => failAt .unterminatedComment start
    | some token => unless token = .plain ')' do skipCommentFrom start fuel

def openLookbehind (start : Nat) : Read Unit := do
  match ← next with
  | none => fail .endsEarly 0
  | some token =>
    let negated ← match token with
      | .plain '=' => pure false
      | .plain '!' => pure true
      | _ => fail (.unknownExtension s!"?<{token.text}") (token.length + 2)
    let state ← get
    let outer := state.lookbehindGroups
    set { state with lookbehindGroups := some (outer.getD (state.groups.size + 1)) }
    openLevel (.behind negated outer) start (← flags)

def openNamed (start : Nat) : Read Unit := do
  match ← next with
  | none => fail .endsEarly 0
  | some (.plain '<') => openCapture start (some (← groupName '>'))
  | some (.plain '=') =>
    let name ← groupName ')'
    match (← get).names.lookup (String.ofList name) with
    | none => fail (.unknownGroup (String.ofList name)) (name.length + 1)
    | some group => addReference group (name.length + 1)
  | some token => fail (.unknownExtension s!"?P{token.text}") (token.length + 2)

def openGroup : Read Unit := do
  let start := (← offset) - 1
  let current ← flags
  if ← accept '?' then
    match ← next with
    | none => fail .endsEarly 0
    | some token =>
      match token with
      | .plain 'P' => openNamed start
      | .plain ':' => openLevel .plain start current
      | .plain '#' => skipCommentFrom start ((← get).rest.length + 1)
      | .plain '=' => openLevel (.ahead false) start current
      | .plain '!' => openLevel (.ahead true) start current
      | .plain '<' => openLookbehind start
      | .plain '(' => openCondition start
      | .plain '>' => openLevel .atomic start current
      | .plain char =>
        if char = '-' || (Flag.ofChar? char).isSome then openFlags start token
        else fail (.unknownExtension s!"?{token.text}") (token.length + 1)
      | .escaped _ => fail (.unknownExtension s!"?{token.text}") (token.length + 1)
  else openCapture start none

end ShadowLint.Pattern.Read
