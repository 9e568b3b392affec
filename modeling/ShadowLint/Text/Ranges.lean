/-!
Sets of code points given by ranges.
-/

namespace ShadowLint.Text

def inRanges (ranges : List (Nat × Nat)) (codePoint : Nat) : Bool :=
  ranges.any fun range => range.1 ≤ codePoint && codePoint ≤ range.2

end ShadowLint.Text
