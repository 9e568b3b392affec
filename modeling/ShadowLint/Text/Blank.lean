import ShadowLint.Text.Ranges

/-!
White space. The marks that separate words in free text include the four
information separators U+001C to U+001F; the marks that may stand between the
parts of a dump do not.
-/

namespace ShadowLint.Text

/-- White space that may stand between the parts of a dump. -/
def layoutRanges : List (Nat × Nat) := [
  (0x9, 0xD), (0x20, 0x20), (0x85, 0x85), (0xA0, 0xA0), (0x1680, 0x1680),
  (0x2000, 0x200A), (0x2028, 0x2029), (0x202F, 0x202F), (0x205F, 0x205F),
  (0x3000, 0x3000)]

def isLayoutBlank (char : Char) : Bool := inRanges layoutRanges char.toNat

/-- White space at the ends of a property value. -/
def isBlank (char : Char) : Bool :=
  isLayoutBlank char || (0x1C ≤ char.toNat && char.toNat ≤ 0x1F)

def trimBlanks (chars : List Char) : List Char :=
  ((chars.dropWhile isBlank).reverse.dropWhile isBlank).reverse

def trim (text : String) : String := String.ofList (trimBlanks text.toList)

example : isLayoutBlank '\u001F' = false := by decide
example : isBlank '\u001F' = true := by decide

end ShadowLint.Text
