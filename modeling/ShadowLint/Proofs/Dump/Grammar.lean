import ShadowLint.Dump.Written
import ShadowLint.Kind

/-!
The format of dumps as a grammar. Every rule relates the input at which a part
starts to the input that is left after the part, so that a part may say what it is
followed by: a name takes all the characters that can belong to it, and a comment
goes on to the end of its line or of the text.
-/

namespace ShadowLint.Dump

/-! ## Layout -/

/-- White space and comments, as many as there are. -/
inductive Layout : List Char → List Char → Prop
  | done (input : List Char) : Layout input input
  | blank {char : Char} {input rest : List Char} : Text.isLayoutBlank char = true →
      Layout input rest → Layout (char :: input) rest
  | comment {body after rest : List Char} : '\n' ∉ body → (∀ char ∈ after.head?, char = '\n') →
      Layout after rest → Layout (';' :: (body ++ after)) rest

/-! ## Names, numerals and quoted texts -/

/-- A letter or an underscore and all the letters, digits and underscores after it. -/
structure IsName (name rest : List Char) : Prop where
  start : ∃ first ∈ name.head?, isNameStart first = true
  parts : ∀ char ∈ name.tail, isNamePart char = true
  longest : ∀ char ∈ rest.head?, isNamePart char = false

structure IsNumeral (digits : List Char) : Prop where
  nonempty : digits ≠ []
  digits : ∀ char ∈ digits, char.isDigit = true

/-- What follows an opening quote, up to the quote that closes the text. The content
is the text without the backslashes that take the character after them as it is. -/
inductive Quoted : (input content rest : List Char) → Prop
  | close (rest : List Char) : Quoted ('"' :: rest) [] rest
  | plain {char : Char} {input content rest : List Char} : char ≠ '"' → char ≠ '\\' →
      Quoted input content rest → Quoted (char :: input) (char :: content) rest
  | escaped {char : Char} {input content rest : List Char} : char ≠ '\n' →
      Quoted input content rest → Quoted ('\\' :: char :: input) (char :: content) rest

/-! ## Attributes and trees -/

inductive RendersAttribute : Attribute → (input rest : List Char) → Prop
  | text {input content rest : List Char} : Quoted input content rest →
      RendersAttribute (.text content) ('"' :: input) rest
  | position {line column : List Char} (rest : List Char) : IsNumeral line → IsNumeral column →
      RendersAttribute (.position line column) ('@' :: (line ++ ':' :: (column ++ rest))) rest

inductive RendersAttributes : List Attribute → (input rest : List Char) → Prop
  | nil (input : List Char) : RendersAttributes [] input input
  | cons {single : Attribute} {others : List Attribute}
      {input afterFirst next rest : List Char} :
      RendersAttribute single input afterFirst → Layout afterFirst next →
      RendersAttributes others next rest → RendersAttributes (single :: others) input rest

/-- Trees, one after the other: each is an opening parenthesis, a name, attributes,
the trees of its children and a closing parenthesis. There may be layout after each
of these but the children, which have their own. -/
inductive Renders : List Written → (input rest : List Char) → Prop
  | nil (input : List Char) : Renders [] input input
  | cons {name : List Char} {attributes : List Attribute} {children others : List Written}
      {opened afterName described inside closed next rest : List Char} :
      Layout opened (name ++ afterName) → IsName name afterName → Layout afterName described →
      RendersAttributes attributes described inside →
      Renders children inside (')' :: closed) → Layout closed next →
      Renders others next rest →
      Renders (.node name (name ++ afterName) attributes children :: others)
        ('(' :: opened) rest

def IsForest (forest : List Written) (text : List Char) : Prop :=
  ∃ body, Layout text body ∧ Renders forest body []

/-- The text is made as the format wants it, whatever its names and numbers mean. -/
def IsWellFormed (text : List Char) : Prop := ∃ forest, IsForest forest text

mutual

def Written.levels : Written → Nat
  | .node _ _ _ children => 1 + levelsOf children

def levelsOf : List Written → Nat
  | [] => 0
  | tree :: others => max tree.levels (levelsOf others)

end

/-! ## How the parts begin -/

theorem isNamePart_of_start {char : Char} (start : isNameStart char = true) :
    isNamePart char = true := by
  simp only [isNameStart, isNamePart, Char.isAlphanum, Bool.or_eq_true] at start ⊢
  rcases start with letter | underscore
  · exact .inl (.inl letter)
  · exact .inr underscore

theorem isNamePart_of_isDigit {char : Char} (digit : char.isDigit = true) :
    isNamePart char = true := by
  simp [isNamePart, Char.isAlphanum, digit]

theorem isNamePart_iff {char : Char} :
    isNamePart char = true ↔
      48 ≤ char.toNat ∧ char.toNat ≤ 57 ∨ 65 ≤ char.toNat ∧ char.toNat ≤ 90 ∨
        char.toNat = 95 ∨ 97 ≤ char.toNat ∧ char.toNat ≤ 122 := by
  have byValue : isNamePart char =
      (decide (char.val ≥ 65 ∧ char.val ≤ 90) || char.val ≥ 97 && char.val ≤ 122 ||
        char.val ≥ 48 && char.val ≤ 57 || char = '_') := rfl
  have underscore : char = '_' ↔ char.toNat = 95 := by
    rw [← Char.toNat_inj]
    rfl
  have number : char.val.toNat = char.toNat := rfl
  simp only [byValue, Bool.or_eq_true, Bool.and_eq_true, decide_eq_true_eq,
    UInt32.le_iff_toNat_le, ge_iff_le, underscore, number, UInt32.reduceToNat]
  omega

theorem isLayoutStart_of_isNamePart {char : Char} (part : isNamePart char = true) :
    isLayoutStart char = false := by
  rw [isNamePart_iff] at part
  have semicolon : char ≠ ';' := by
    rintro rfl
    revert part
    decide
  simp only [isLayoutStart, semicolon, decide_false, Bool.false_or, Text.isLayoutBlank,
    Text.inRanges, Text.layoutRanges, List.any_cons, List.any_nil, Bool.or_false,
    Bool.or_eq_false_iff, Bool.and_eq_false_iff, decide_eq_false_iff_not]
  omega

theorem RendersAttributes.head {attributes : List Attribute} {input rest : List Char}
    (renders : RendersAttributes attributes input rest) :
    input = rest ∨ ∃ char ∈ input.head?, char = '"' ∨ char = '@' := by
  cases renders with
  | nil => exact .inl rfl
  | cons first _ _ =>
    right
    cases first with
    | text => exact ⟨_, rfl, .inl rfl⟩
    | position => exact ⟨_, rfl, .inr rfl⟩

theorem Renders.head {forest : List Written} {input rest : List Char}
    (renders : Renders forest input rest) : input = rest ∨ ∃ after, input = '(' :: after := by
  cases renders with
  | nil => exact .inl rfl
  | cons => exact .inr ⟨_, rfl⟩

end ShadowLint.Dump
