import ShadowLint.Value

/-!
Values as JSON texts on one line, in ASCII: every other character is written as
one escaped unit, or as two above U+FFFF.
-/

namespace ShadowLint.Json

open Number (Binary64)

def escapedUnit (unit : Nat) : List Char := '\\' :: 'u' :: Text.hexDigits 4 unit

def encodedChar (char : Char) : List Char :=
  if char = '"' then ['\\', '"']
  else if char = '\\' then ['\\', '\\']
  else if char = '\n' then ['\\', 'n']
  else if char = '\r' then ['\\', 'r']
  else if char = '\t' then ['\\', 't']
  else if char = '\x0C' then ['\\', 'f']
  else if char = '\x08' then ['\\', 'b']
  else if 0x20 ≤ char.toNat ∧ char.toNat ≤ 0x7E then [char]
  else if char.toNat ≤ 0xFFFF then escapedUnit char.toNat
  else
    let rest := char.toNat - 0x10000
    escapedUnit (0xD800 + rest / 0x400) ++ escapedUnit (0xDC00 + rest % 0x400)

def encodedText (text : String) : List Char :=
  '"' :: text.toList.flatMap encodedChar ++ ['"']

mutual

def encode : Value → List Char
  | .null => "null".toList
  | .bool true => "true".toList
  | .bool false => "false".toList
  | .int value => (toString value).toList
  | .real value => (value.text Binary64.jsonSpelling).toList
  | .text value => encodedText value
  | .list [] => ['[', ']']
  | .list (item :: rest) => '[' :: encode item ++ encodeItems rest
  | .object [] => ['\x7b', '\x7d']
  | .object ((name, value) :: rest) =>
    '\x7b' :: encodedText name ++ ':' :: ' ' :: encode value ++ encodeMembers rest

def encodeItems : List Value → List Char
  | [] => [']']
  | item :: rest => ',' :: ' ' :: encode item ++ encodeItems rest

def encodeMembers : List (String × Value) → List Char
  | [] => ['\x7d']
  | (name, value) :: rest =>
    ',' :: ' ' :: encodedText name ++ ':' :: ' ' :: encode value ++ encodeMembers rest

end

def write (value : Value) : String := String.ofList (encode value)

example : write (.list [.text "é\n", .int 1]) = "[\"\\u00e9\\n\", 1]" := by decide +kernel

end ShadowLint.Json
