import ShadowLint.Text.Alphanumeric
import ShadowLint.Text.Blank
import ShadowLint.Text.CaseMapping

/-!
The parts of a pattern that take exactly one character: a literal, any character,
or a set of characters. Under the case-insensitive mode a character is put into
lower case first, and letters that have one upper-case form are taken for each
other.
-/

namespace ShadowLint.Pattern

structure Mode where
  ignoreCase : Bool
  asciiOnly : Bool
  deriving DecidableEq, Repr

inductive Category where
  | digit
  | blank
  | word
  deriving DecidableEq, Repr

def Category.holds (category : Category) (asciiOnly : Bool) (code : Nat) : Bool :=
  let char := Char.ofNat code
  let inAlphabet := !asciiOnly || code < 128
  match category with
  | digit => inAlphabet && Text.isDecimalDigit char
  | blank =>
    if asciiOnly then code = 32 || (9 ≤ code && code ≤ 13) else Text.isBlank char
  | word => code = 95 || (inAlphabet && Text.isAlphanumeric char)

/-! ## Case -/

/-- Lower-case letters, each with the others that share its upper-case form. -/
def caseSiblings : List (Nat × List Nat) := [
  (0x69, [0x131]), (0x73, [0x17F]), (0xB5, [0x3BC]), (0x131, [0x69]), (0x17F, [0x73]),
  (0x345, [0x3B9, 0x1FBE]), (0x390, [0x1FD3]), (0x3B0, [0x1FE3]), (0x3B2, [0x3D0]),
  (0x3B5, [0x3F5]), (0x3B8, [0x3D1]), (0x3B9, [0x345, 0x1FBE]), (0x3BA, [0x3F0]),
  (0x3BC, [0xB5]), (0x3C0, [0x3D6]), (0x3C1, [0x3F1]), (0x3C2, [0x3C3]), (0x3C3, [0x3C2]),
  (0x3C6, [0x3D5]), (0x3D0, [0x3B2]), (0x3D1, [0x3B8]), (0x3D5, [0x3C6]), (0x3D6, [0x3C0]),
  (0x3F0, [0x3BA]), (0x3F1, [0x3C1]), (0x3F5, [0x3B5]), (0x432, [0x1C80]), (0x434, [0x1C81]),
  (0x43E, [0x1C82]), (0x441, [0x1C83]), (0x442, [0x1C84, 0x1C85]), (0x44A, [0x1C86]),
  (0x463, [0x1C87]), (0x1C80, [0x432]), (0x1C81, [0x434]), (0x1C82, [0x43E]), (0x1C83, [0x441]),
  (0x1C84, [0x442, 0x1C85]), (0x1C85, [0x442, 0x1C84]), (0x1C86, [0x44A]), (0x1C87, [0x463]),
  (0x1C88, [0xA64B]), (0x1E61, [0x1E9B]), (0x1E9B, [0x1E61]), (0x1FBE, [0x345, 0x3B9]),
  (0x1FD3, [0x390]), (0x1FE3, [0x3B0]), (0xA64B, [0x1C88]), (0xFB05, [0xFB06]),
  (0xFB06, [0xFB05])]

private def asciiLower (code : Nat) : Nat :=
  if 65 ≤ code ∧ code ≤ 90 then code + 32 else code

def Mode.lower (mode : Mode) (code : Nat) : Nat :=
  if mode.asciiOnly then asciiLower code else Text.simpleLower code

def Mode.isCased (mode : Mode) (code : Nat) : Bool :=
  if mode.asciiOnly then (65 ≤ code && code ≤ 90) || (97 ≤ code && code ≤ 122)
  else mode.lower code ≠ code || Text.simpleUpper code ≠ code

def Mode.siblings (mode : Mode) (code : Nat) : List Nat :=
  if mode.asciiOnly then [] else (caseSiblings.lookup code).getD []

/-! ## Literals and sets -/

def literalHolds (mode : Mode) (literal code : Nat) : Bool :=
  if mode.ignoreCase && mode.isCased literal then
    let wanted := mode.lower literal
    let given := mode.lower code
    given = wanted || (mode.siblings wanted).contains given
  else code = literal

inductive Member where
  | single (code : Nat)
  | range (first last : Nat)
  | category (sort : Category) (negated : Bool)
  deriving DecidableEq, Repr

private def basicLast : Nat := 0xFFFF

def Member.holds (asciiOnly : Bool) (code : Nat) : Member → Bool
  | single member => code = member
  | range first last => first ≤ code && code ≤ last
  | category sort negated => sort.holds asciiOnly code != negated

private def anyBetween (first last : Nat) (test : Nat → Bool) : Bool :=
  (List.range (last + 1 - first)).any fun offset => test (first + offset)

/-- Does the member hold letters of both cases? Those beyond the basic plane
always count. -/
def Member.isCased (mode : Mode) : Member → Bool
  | single member => basicLast < mode.lower member || mode.isCased member
  | range first last => basicLast < last || anyBetween first last mode.isCased
  | category _ _ => false

/-- Does the member hold a form of a character that was put into lower case?
Beyond the basic plane a single member is compared as it is, and a range is also
tried with the upper-case form. -/
def Member.holdsForm (mode : Mode) (lowered : Nat) : Member → Bool
  | single member =>
    let wanted := mode.lower member
    if basicLast < wanted then lowered = member
    else lowered = wanted || (mode.siblings wanted).contains lowered
  | range first last =>
    let inBasic := anyBetween first (min last basicLast) fun code =>
      let wanted := mode.lower code
      lowered = wanted || (mode.siblings wanted).contains lowered
    let beyond := basicLast < last &&
      ((first ≤ lowered && lowered ≤ last) ||
        (first ≤ Text.simpleUpper lowered && Text.simpleUpper lowered ≤ last))
    inBasic || beyond
  | category sort negated => sort.holds mode.asciiOnly lowered != negated

def membersHold (mode : Mode) (members : List Member) (code : Nat) : Bool :=
  if mode.ignoreCase && members.any (·.isCased mode) then
    let lowered := mode.lower code
    members.any (·.holdsForm mode lowered)
  else members.any (·.holds mode.asciiOnly code)

inductive Single where
  /-- Any character, a line feed only if `lineFeeds`. -/
  | any (lineFeeds : Bool)
  | literal (mode : Mode) (negated : Bool) (code : Nat)
  | set (mode : Mode) (negated : Bool) (members : List Member)
  deriving DecidableEq, Repr

def Single.accepts (char : Char) : Single → Bool
  | any lineFeeds => lineFeeds || char ≠ '\n'
  | literal mode negated code => literalHolds mode code char.toNat != negated
  | set mode negated members => membersHold mode members char.toNat != negated

example : (Single.set ⟨false, false⟩ true [.range 97 122]).accepts 'm' = false := by decide +kernel

end ShadowLint.Pattern
