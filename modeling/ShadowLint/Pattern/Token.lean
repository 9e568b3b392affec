/-!
Patterns as sequences of tokens: a character, or a backslash with the character
after it.
-/

namespace ShadowLint.Pattern

inductive Token where
  | plain (char : Char)
  | escaped (char : Char)
  deriving DecidableEq, Repr

namespace Token

def chars : Token → List Char
  | plain char => [char]
  | escaped char => ['\\', char]

def length (token : Token) : Nat := token.chars.length

def text (token : Token) : String := String.ofList token.chars

end Token

/-- The tokens of a pattern, and whether a lone backslash ends it. -/
def tokensOf : List Char → List Token × Bool
  | [] => ([], false)
  | '\\' :: [] => ([], true)
  | '\\' :: char :: rest =>
    let (tokens, dangling) := tokensOf rest
    (.escaped char :: tokens, dangling)
  | char :: rest =>
    let (tokens, dangling) := tokensOf rest
    (.plain char :: tokens, dangling)

example : tokensOf "a\\d\\".toList = ([.plain 'a', .escaped 'd'], true) := by decide

end ShadowLint.Pattern
