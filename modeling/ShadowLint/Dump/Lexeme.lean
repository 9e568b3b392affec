import ShadowLint.Text.Blank

/-!
The smallest parts of a dump: layout (white space and comments), quoted texts and
names. A comment runs from a semicolon to the end of its line. In a quoted text a
backslash takes the next character as it is, unless that is a line feed.
-/

namespace ShadowLint.Dump

/-- The input after the comment it stands in; the line feed is not part of it. -/
def skipComment (input : List Char) : List Char := input.dropWhile (· ≠ '\n')

private def skipLayoutFrom (inComment : Bool) : List Char → List Char
  | [] => []
  | char :: rest =>
    if inComment then skipLayoutFrom (char ≠ '\n') rest
    else if char = ';' then skipLayoutFrom true rest
    else if Text.isLayoutBlank char then skipLayoutFrom false rest
    else char :: rest

def skipLayout (input : List Char) : List Char := skipLayoutFrom false input

@[simp] theorem skipLayout_nil : skipLayout [] = [] := rfl

private theorem skipLayoutFrom_comment (input : List Char) :
    skipLayoutFrom true input = skipLayout (skipComment input) := by
  induction input with
  | nil => rfl
  | cons char rest induction =>
    by_cases lineFeed : char = '\n'
    · subst lineFeed
      rfl
    · rw [skipLayoutFrom, skipComment, List.dropWhile_cons]
      simpa [lineFeed, skipComment] using induction

theorem skipLayout_comment (rest : List Char) :
    skipLayout (';' :: rest) = skipLayout (skipComment rest) :=
  skipLayoutFrom_comment rest

def isLayoutStart (char : Char) : Bool := char = ';' || Text.isLayoutBlank char

theorem skipLayout_blank {char : Char} (blank : Text.isLayoutBlank char = true)
    (rest : List Char) : skipLayout (char :: rest) = skipLayout rest := by
  have noComment : char ≠ ';' := by
    intro semicolon
    rw [semicolon] at blank
    exact absurd blank (by decide)
  simp [skipLayout, skipLayoutFrom, noComment, blank]

theorem skipLayout_other {char : Char} (other : isLayoutStart char = false)
    (rest : List Char) : skipLayout (char :: rest) = char :: rest := by
  simp only [isLayoutStart, Bool.or_eq_false_iff, decide_eq_false_iff_not] at other
  simp [skipLayout, skipLayoutFrom, other.1, other.2]

example : skipLayout "  ; (a\n\t(b)".toList = "(b)".toList := by decide +kernel

private def quotedTextFrom (done : List Char) : List Char → Option (List Char × List Char)
  | [] => none
  | '"' :: rest => some (done.reverse, rest)
  | '\\' :: [] => none
  | '\\' :: char :: rest => if char = '\n' then none else quotedTextFrom (char :: done) rest
  | char :: rest => quotedTextFrom (char :: done) rest

/-- The content of the quoted text whose opening quote was just passed, and the
input after its closing quote; `none` if no quote closes it. -/
def quotedText? (input : List Char) : Option (List Char × List Char) :=
  quotedTextFrom [] input

private theorem quotedTextFrom_plain {char : Char} (notQuote : char ≠ '"')
    (notEscape : char ≠ '\\') (done rest : List Char) :
    quotedTextFrom done (char :: rest) = quotedTextFrom (char :: done) rest := by
  rw [quotedTextFrom]
  · exact notQuote
  · intro equal
    exact absurd equal notEscape
  · intro _ _ equal
    exact absurd equal notEscape

private theorem quotedTextFrom_eq (done input : List Char) :
    quotedTextFrom done input =
      (quotedText? input).map fun (content, rest) => (done.reverse ++ content, rest) := by
  have general : ∀ first, quotedTextFrom first input =
      (quotedTextFrom [] input).map fun (content, rest) => (first.reverse ++ content, rest) := by
    induction done, input using quotedTextFrom.induct with
    | case1 => intro first; rfl
    | case2 _ rest => intro first; simp [quotedTextFrom]
    | case3 => intro first; rfl
    | case4 => intro first; simp [quotedTextFrom]
    | case5 _ char rest notLineFeed induction =>
      intro first
      rw [quotedTextFrom, if_neg notLineFeed, induction, quotedTextFrom, if_neg notLineFeed,
        induction [char]]
      simp [Function.comp_def]
    | case6 _ char rest notQuote notLast notPair induction =>
      have notEscape : char ≠ '\\' := by
        intro equal
        cases rest with
        | nil => exact notLast equal rfl
        | cons next others => exact notPair next others equal rfl
      intro first
      rw [quotedTextFrom_plain notQuote notEscape, induction,
        quotedTextFrom_plain notQuote notEscape, induction [char]]
      simp [Function.comp_def]
  exact general done

theorem quotedText?_close (rest : List Char) : quotedText? ('"' :: rest) = some ([], rest) := rfl

theorem quotedText?_escaped {char : Char} (notLineFeed : char ≠ '\n') (rest : List Char) :
    quotedText? ('\\' :: char :: rest) =
      (quotedText? rest).map fun (content, rest) => (char :: content, rest) := by
  rw [quotedText?, quotedTextFrom, if_neg notLineFeed, quotedTextFrom_eq]
  rfl

theorem quotedText?_plain {char : Char} (notQuote : char ≠ '"') (notEscape : char ≠ '\\')
    (rest : List Char) :
    quotedText? (char :: rest) =
      (quotedText? rest).map fun (content, rest) => (char :: content, rest) := by
  rw [quotedText?, quotedTextFrom_plain notQuote notEscape, quotedTextFrom_eq]
  rfl

example : quotedText? "a\\\"b\" c".toList = some ("a\"b".toList, " c".toList) := by decide

def isNameStart (char : Char) : Bool := char.isAlpha || char = '_'

def isNamePart (char : Char) : Bool := char.isAlphanum || char = '_'

def name? : List Char → Option (List Char × List Char)
  | [] => none
  | first :: rest =>
    if isNameStart first then some (first :: rest.takeWhile isNamePart, rest.dropWhile isNamePart)
    else none

def digits? (input : List Char) : Option (List Char × List Char) :=
  let digits := input.takeWhile Char.isDigit
  if digits.isEmpty then none else some (digits, input.dropWhile Char.isDigit)

end ShadowLint.Dump
