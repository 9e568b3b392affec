import ShadowLint.Dump.Lexeme

/-!
How deeply the parentheses of a text are nested, found without reading the text
as a dump: quoted texts and comments are passed over wherever they stand, a quote
that starts no complete text counts for nothing, and closing parentheses may take
the count below zero.
-/

namespace ShadowLint.Dump

def nestingLimit : Nat := 1000

/-- Goes on with `depth` parentheses open and `deepest` the most so far. Every
step takes a character, so that the length of the input is fuel enough. -/
def nestingFrom : (fuel : Nat) → (depth : Int) → (deepest : Nat) →
    List Char → Except (List Char) Nat
  | 0, _, deepest, _ => .ok deepest
  | _ + 1, _, deepest, [] => .ok deepest
  | fuel + 1, depth, deepest, char :: rest =>
    if char = '"' then
      match quotedText? rest with
      | some (_, after) => nestingFrom fuel depth deepest after
      | none => nestingFrom fuel depth deepest rest
    else if char = ';' then nestingFrom fuel depth deepest (skipComment rest)
    else if char = '(' then
      if (nestingLimit : Int) < depth + 1 then .error (char :: rest)
      else nestingFrom fuel (depth + 1) (max deepest (depth + 1).toNat) rest
    else if char = ')' then nestingFrom fuel (depth - 1) deepest rest
    else nestingFrom fuel depth deepest rest

/-- The most parentheses open at once, or the input from the first one that is
beyond the limit. -/
def nesting (text : List Char) : Except (List Char) Nat :=
  nestingFrom text.length 0 0 text

example : (nesting "(a (b \"((\") ; (\n (c))".toList).toOption = some 2 := by decide +kernel

end ShadowLint.Dump
