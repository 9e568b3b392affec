import ShadowLint.Pattern.Escape

/-!
Sets of characters between brackets.
-/

namespace ShadowLint.Pattern.Read

def memberOf : Token → Read Member
  | .plain char => return .single char.toNat
  | .escaped char => memberEscape char

def rangeOf (first last : Token) (low high : Member) : Read Member :=
  let bad := fail (.badRange first.text last.text) (first.length + 1 + last.length)
  match low, high with
  | .single low, .single high => if high < low then bad else return .range low high
  | _, _ => bad

/-- The members up to the closing bracket, which is a member itself if it comes
first; `start` is the offset of the opening bracket, and `fuel` bounds the tokens
that are looked at. -/
def membersFrom (start : Nat) : (fuel : Nat) → (done : List Member) → Read (List Member)
  | 0, done => return done
  | fuel + 1, done => do
    match ← next with
    | none => failAt .unterminatedSet start
    | some first =>
      if first = .plain ']' && !done.isEmpty then return done
      let low ← memberOf first
      if ← accept '-' then
        match ← next with
        | none => failAt .unterminatedSet start
        | some last =>
          if last = .plain ']' then return done ++ [low, .single 45]
          let high ← memberOf last
          membersFrom start fuel (done ++ [← rangeOf first last low high])
      else membersFrom start fuel (done ++ [low])

/-- Adds the set whose opening bracket was just passed. A set of one character is
that character. -/
def addSet : Read Unit := do
  let start := (← offset) - 1
  let negated ← accept '^'
  let members ← membersFrom start ((← get).rest.length + 1) []
  let mode := (← flags).mode
  let test : Single :=
    match members.eraseDups with
    | [.single code] => .literal mode negated code
    | members => .set mode negated members
  add .other (.single test) .one

end ShadowLint.Pattern.Read
