import ShadowLint.Pattern.Single

/-!
The flags that a pattern may switch on for itself or for a group.
-/

namespace ShadowLint.Pattern

inductive Flag where
  | ignoreCase
  | locale
  | multiline
  | dotAll
  | verbose
  | ascii
  | template
  | unicode
  deriving DecidableEq, Repr

namespace Flag

def ofChar? : Char → Option Flag
  | 'i' => some ignoreCase
  | 'L' => some locale
  | 'm' => some multiline
  | 's' => some dotAll
  | 'x' => some verbose
  | 'a' => some ascii
  | 't' => some template
  | 'u' => some unicode
  | _ => none

def isAlphabet : Flag → Bool
  | ascii | locale | unicode => true
  | _ => false

end Flag

abbrev Flags := List Flag

namespace Flags

/-- The flags inside a group that adds some and removes others. An alphabet that
is added takes the place of the one outside. -/
def within (flags added removed : Flags) : Flags :=
  let kept := if added.any Flag.isAlphabet then flags.filter (!·.isAlphabet) else flags
  (kept ++ added).filter fun flag => !removed.contains flag

def mode (flags : Flags) : Mode :=
  ⟨flags.contains .ignoreCase, flags.contains .ascii⟩

end Flags

end ShadowLint.Pattern
