import ShadowLint.Value
import ShadowLint.Text.Place

/-!
Reading a JSON text. The reader goes through the characters once and stops at
the first fault, which it names together with its place. Besides the standard
numbers it takes `NaN`, `Infinity` and `-Infinity`; of an object's members with
one name the last one counts.
-/

namespace ShadowLint.Json

open Number (Binary64)

inductive Cause where
  | byteOrderMark
  | value
  | propertyName
  | colon
  | comma
  | extraData
  | unterminatedText
  | controlCharacter
  | escape
  | unicodeEscape
  deriving DecidableEq, Repr

def Cause.text : Cause → String
  | byteOrderMark => "Unexpected UTF-8 BOM (decode using utf-8-sig)"
  | value => "Expecting value"
  | propertyName => "Expecting property name enclosed in double quotes"
  | colon => "Expecting ':' delimiter"
  | comma => "Expecting ',' delimiter"
  | extraData => "Extra data"
  | unterminatedText => "Unterminated string starting at"
  | controlCharacter => "Invalid control character at"
  | escape => "Invalid \\escape"
  | unicodeEscape => "Invalid \\uXXXX escape"

def digitLimit : Nat := 4300

def tooManyDigits (count : Nat) : String :=
  let limit := s!"Exceeds the limit ({digitLimit} digits) for integer string conversion"
  s!"{limit}: value has {count} digits; use sys.set_int_max_str_digits() to increase the limit"

/-- Why a text cannot be read. The place of a malformed part is given by the
number of characters from there to the end. -/
inductive Fault where
  | malformed (cause : Cause) (remaining : Nat)
  | numberTooLong (digits : Nat)
  deriving DecidableEq, Repr

def Fault.message (text : List Char) : Fault → String
  | malformed cause remaining =>
    let offset := text.length - remaining
    let place := Text.placeAt text offset
    s!"{cause.text}: line {place.line} column {place.column} (char {offset})"
  | numberTooLong digits => tooManyDigits digits

abbrev Reading (Part : Type) := Except Fault (Part × List Char)

def isJsonBlank (char : Char) : Bool :=
  char = ' ' || char = '\t' || char = '\n' || char = '\r'

def skipBlanks (input : List Char) : List Char := input.dropWhile isJsonBlank

/-! ## Texts -/

def hexValue? (char : Char) : Option Nat :=
  if '0' ≤ char ∧ char ≤ '9' then some (char.toNat - 48)
  else if 'a' ≤ char ∧ char ≤ 'f' then some (char.toNat - 87)
  else if 'A' ≤ char ∧ char ≤ 'F' then some (char.toNat - 55)
  else none

/-- The unit that four hexadecimal digits stand for, and what follows them. There
has to be something, for a text cannot end with an escape. -/
def unit? : List Char → Option (Nat × List Char)
  | first :: second :: third :: fourth :: next :: rest => do
    let first ← hexValue? first
    let second ← hexValue? second
    let third ← hexValue? third
    let fourth ← hexValue? fourth
    some (((first * 16 + second) * 16 + third) * 16 + fourth, next :: rest)
  | _ => none

private theorem length_of_unit? {input rest : List Char} {unit : Nat}
    (read : unit? input = some (unit, rest)) : rest.length < input.length := by
  unfold unit? at read
  split at read
  · simp only [Option.bind_eq_bind, Option.bind_eq_some_iff, Option.some.injEq,
      Prod.mk.injEq] at read
    obtain ⟨_, _, _, _, _, _, _, _, _, equal⟩ := read
    subst equal
    simp only [List.length_cons]
    omega
  · simp at read

def simpleEscape? : Char → Option Char
  | '"' => some '"'
  | '\\' => some '\\'
  | '/' => some '/'
  | 'b' => some '\x08'
  | 'f' => some '\x0C'
  | 'n' => some '\n'
  | 'r' => some '\r'
  | 't' => some '\t'
  | _ => none

def isHighSurrogate (unit : Nat) : Bool := 0xD800 ≤ unit && unit ≤ 0xDBFF

def isLowSurrogate (unit : Nat) : Bool := 0xDC00 ≤ unit && unit ≤ 0xDFFF

/-- The character of a unit that is not half of a pair. A lone half is no
character and is read as the replacement character: texts that differ only in
their lone halves are read as one, and names of members with them. -/
def unitChar (unit : Nat) : Char :=
  if isHighSurrogate unit || isLowSurrogate unit then '\uFFFD' else Char.ofNat unit

inductive SecondHalf (input : List Char) where
  | absent
  | faulty
  | present (unit : Nat) (rest : List Char) (shorter : rest.length < input.length)

def secondHalf (input : List Char) : SecondHalf input :=
  match input with
  | '\\' :: 'u' :: digits =>
    if (digits.drop 4).isEmpty then .absent
    else match read : unit? digits with
      | none => .faulty
      | some (unit, rest) => .present unit rest (by
          have := length_of_unit? read
          simp only [List.length_cons]
          omega)
  | _ => .absent

/-- Reads on inside a text; `whole` is the input after its opening quote, and
`done` holds what was read so far, last first. -/
def readTextFrom (whole : List Char) (done : List Char) (input : List Char) :
    Reading String :=
  match input with
  | [] => .error (.malformed .unterminatedText (whole.length + 1))
  | '"' :: rest => .ok (String.ofList done.reverse, rest)
  | '\\' :: [] => .error (.malformed .unterminatedText (whole.length + 1))
  | '\\' :: 'u' :: digits =>
    match read : unit? digits with
    | none => .error (.malformed .unicodeEscape (digits.length + 1))
    | some (unit, rest) =>
      have := length_of_unit? read
      if isHighSurrogate unit then
        match secondHalf rest with
        | .absent => readTextFrom whole (unitChar unit :: done) rest
        | .faulty => .error (.malformed .unicodeEscape (rest.length - 1))
        | .present second after further =>
          if isLowSurrogate second then
            let char := Char.ofNat (0x10000 + (unit - 0xD800) * 0x400 + (second - 0xDC00))
            readTextFrom whole (char :: done) after
          else readTextFrom whole (unitChar unit :: done) rest
      else readTextFrom whole (unitChar unit :: done) rest
  | '\\' :: mark :: rest =>
    match simpleEscape? mark with
    | none => .error (.malformed .escape (rest.length + 2))
    | some char => readTextFrom whole (char :: done) rest
  | char :: rest =>
    if char.toNat ≤ 0x1F then .error (.malformed .controlCharacter (rest.length + 1))
    else readTextFrom whole (char :: done) rest
termination_by input.length

def readText (input : List Char) : Reading String :=
  readTextFrom input [] input

/-! ## Numbers -/

def takeDigits (input : List Char) : List Char × List Char :=
  input.span Char.isDigit

def digitsValue (digits : List Char) : Nat :=
  digits.foldl (fun value digit => 10 * value + (digit.toNat - 48)) 0

/-- The digits in front: a zero stands by itself. -/
def wholePart (input : List Char) : List Char × List Char :=
  match input with
  | '0' :: rest => (['0'], rest)
  | _ => takeDigits input

def fractionPart (input : List Char) : List Char × List Char :=
  match input with
  | '.' :: rest =>
    let (digits, after) := takeDigits rest
    if digits.isEmpty then ([], input) else (digits, after)
  | _ => ([], input)

def exponentPart (input : List Char) : Option Int × List Char :=
  match input with
  | mark :: rest =>
    if mark = 'e' ∨ mark = 'E' then
      let (negative, unsigned) := match rest with
        | '-' :: unsigned => (true, unsigned)
        | '+' :: unsigned => (false, unsigned)
        | unsigned => (false, unsigned)
      let (digits, after) := takeDigits unsigned
      if digits.isEmpty then (none, input)
      else
        let size : Int := digitsValue digits
        (some (if negative then -size else size), after)
    else (none, input)
  | [] => (none, input)

def readMagnitude (negative : Bool) (input : List Char) : Option (Reading Value) :=
  let (whole, rest) := wholePart input
  if whole.isEmpty then none
  else
    let (fraction, afterFraction) := fractionPart rest
    let (exponent, after) := exponentPart afterFraction
    if fraction.isEmpty && exponent.isNone then
      if digitLimit < whole.length then some (.error (.numberTooLong whole.length))
      else
        let size : Int := digitsValue whole
        some (.ok (.int (if negative then -size else size), after))
    else
      let power := exponent.getD 0 - (fraction.length : Int)
      some (.ok (.real (.ofDecimal negative (digitsValue (whole ++ fraction)) power), after))

def readNumber? : List Char → Option (Reading Value)
  | '-' :: rest => readMagnitude true rest
  | input => readMagnitude false input

/-! ## Values -/

def words : List (List Char × Value) := [
  ("null".toList, .null),
  ("true".toList, .bool true),
  ("false".toList, .bool false),
  ("NaN".toList, .real .nan),
  ("Infinity".toList, .real (.infinite false)),
  ("-Infinity".toList, .real (.infinite true))]

def readWord? (input : List Char) : Option (Value × List Char) :=
  words.findSome? fun (word, value) =>
    if word.isPrefixOf input then some (value, input.drop word.length) else none

def expected {Part : Type} (cause : Cause) (input : List Char) : Reading Part :=
  .error (.malformed cause input.length)

mutual

/-- Reads a value that starts with the first character. No more than two calls
are open for one character, so that twice the length of the input is fuel
enough. -/
def readValue : (fuel : Nat) → List Char → Reading Value
  | 0, input => expected .value input
  | fuel + 1, input =>
    match input with
    | '"' :: rest => (readText rest).map fun (text, after) => (.text text, after)
    | '[' :: rest =>
      match skipBlanks rest with
      | ']' :: after => .ok (.list [], after)
      | items => readItems fuel [] items
    | '\x7b' :: rest =>
      match skipBlanks rest with
      | '\x7d' :: after => .ok (.object [], after)
      | members => readMembers fuel [] members
    | _ =>
      match readWord? input with
      | some reading => .ok reading
      | none => (readNumber? input).getD (expected .value input)

def readItems : (fuel : Nat) → (done : List Value) → List Char → Reading Value
  | 0, _, input => expected .value input
  | fuel + 1, done, input =>
    match readValue fuel input with
    | .error fault => .error fault
    | .ok (item, rest) =>
      match skipBlanks rest with
      | ']' :: after => .ok (.list (item :: done).reverse, after)
      | ',' :: more => readItems fuel (item :: done) (skipBlanks more)
      | rest => expected .comma rest

def readMembers : (fuel : Nat) → (done : List (String × Value)) → List Char → Reading Value
  | 0, _, input => expected .value input
  | fuel + 1, done, input =>
    match input with
    | '"' :: rest =>
      match readText rest with
      | .error fault => .error fault
      | .ok (name, rest) =>
        match skipBlanks rest with
        | ':' :: rest =>
          match readValue fuel (skipBlanks rest) with
          | .error fault => .error fault
          | .ok (value, rest) =>
            match skipBlanks rest with
            | '\x7d' :: after => .ok (.object (membersOf ((name, value) :: done).reverse), after)
            | ',' :: more => readMembers fuel ((name, value) :: done) (skipBlanks more)
            | rest => expected .comma rest
        | rest => expected .colon rest
    | _ => expected .propertyName input

end

def read (text : List Char) : Except Fault Value :=
  match text with
  | '\uFEFF' :: _ => .error (.malformed .byteOrderMark text.length)
  | _ =>
    match readValue (2 * text.length + 2) (skipBlanks text) with
    | .error fault => .error fault
    | .ok (value, rest) =>
      match skipBlanks rest with
      | [] => .ok value
      | rest => .error (.malformed .extraData rest.length)

end ShadowLint.Json
