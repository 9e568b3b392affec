import ShadowLint.Text.Place
import ShadowLint.Text.Quoted

/-!
What can be wrong with a pattern, and how it is said.
-/

namespace ShadowLint.Pattern

inductive Cause where
  | escapeAtEnd
  | badEscape (escape : String)
  | incompleteEscape (escape : String)
  | octalTooLarge (escape : String)
  | missing (what : String)
  | unterminatedName (terminator : Char)
  | unknownCharacterName (name : String)
  | openGroup
  | groupInLookbehind
  | noGroup (number : Nat)
  | unterminatedSet
  | badRange (first last : String)
  | repeatLimitsCrossed
  | nothingToRepeat
  | multipleRepeat
  | endsEarly
  | badGroupName (name : String)
  | badGroupNumber
  | unknownGroup (name : String)
  | redefinedGroup (name : String) (number earlier : Nat)
  | unknownExtension (text : String)
  | unterminatedComment
  | unterminatedGroup
  | thirdBranch
  | lateFlags
  | missingFlagEnd
  | missingFlag
  | missingColon
  | unknownFlag
  | localeFlag
  | incompatibleFlags
  | removedAlphabetFlag
  | flagOnAndOff
  | addedTemplateFlag
  | removedTemplateFlag
  | unbalanced
  | variableLookbehind
  | farLookbehind
  | templateRepetition (operator : String)
  deriving DecidableEq, Repr

def Cause.text : Cause → String
  | escapeAtEnd => "bad escape (end of pattern)"
  | badEscape escape => s!"bad escape {escape}"
  | incompleteEscape escape => s!"incomplete escape {escape}"
  | octalTooLarge escape => s!"octal escape value {escape} outside of range 0-0o377"
  | missing what => s!"missing {what}"
  | unterminatedName terminator => s!"missing {terminator}, unterminated name"
  | unknownCharacterName name => s!"undefined character name {Text.quoted name}"
  | openGroup => "cannot refer to an open group"
  | groupInLookbehind => "cannot refer to group defined in the same lookbehind subpattern"
  | noGroup number => s!"invalid group reference {number}"
  | unterminatedSet => "unterminated character set"
  | badRange first last => s!"bad character range {first}-{last}"
  | repeatLimitsCrossed => "min repeat greater than max repeat"
  | nothingToRepeat => "nothing to repeat"
  | multipleRepeat => "multiple repeat"
  | endsEarly => "unexpected end of pattern"
  | badGroupName name => s!"bad character in group name {Text.quoted name}"
  | badGroupNumber => "bad group number"
  | unknownGroup name => s!"unknown group name {Text.quoted name}"
  | redefinedGroup name number earlier =>
    s!"redefinition of group name {Text.quoted name} as group {number}; was group {earlier}"
  | unknownExtension text => s!"unknown extension {text}"
  | unterminatedComment => "missing ), unterminated comment"
  | unterminatedGroup => "missing ), unterminated subpattern"
  | thirdBranch => "conditional backref with more than two branches"
  | lateFlags => "global flags not at the start of the expression"
  | missingFlagEnd => "missing -, : or )"
  | missingFlag => "missing flag"
  | missingColon => "missing :"
  | unknownFlag => "unknown flag"
  | localeFlag => "bad inline flags: cannot use 'L' flag with a str pattern"
  | incompatibleFlags => "bad inline flags: flags 'a', 'u' and 'L' are incompatible"
  | removedAlphabetFlag => "bad inline flags: cannot turn off flags 'a', 'u' and 'L'"
  | flagOnAndOff => "bad inline flags: flag turned on and off"
  | addedTemplateFlag => "bad inline flags: cannot turn on global flag"
  | removedTemplateFlag => "bad inline flags: cannot turn off global flag"
  | unbalanced => "unbalanced parenthesis"
  | variableLookbehind => "look-behind requires fixed-width pattern"
  | farLookbehind => "looks too much behind"
  | templateRepetition operator => s!"internal: unsupported template operator {operator}"

inductive Fault where
  | malformed (cause : Cause) (offset : Option Nat)
  | repeatTooLarge
  | mixedAlphabets
  deriving DecidableEq, Repr

/-- The message for a malformed pattern. A pattern of several lines has the place
told by line and column as well. -/
def Cause.message (cause : Cause) (offset : Option Nat) (pattern : String) : String :=
  match offset with
  | none => cause.text
  | some offset =>
    let text := pattern.toList
    let place := Text.placeAt text offset
    let lines := if text.contains '\n' then s!" (line {place.line}, column {place.column})" else ""
    s!"{cause.text} at position {offset}{lines}"

end ShadowLint.Pattern
