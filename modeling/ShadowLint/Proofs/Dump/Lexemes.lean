import ShadowLint.Proofs.Dump.Grammar
import ShadowLint.Proofs.Text.Runs

/-!
The readers of the smallest parts read what the grammar says. Skipping layout goes
as far as layout can go, so that layout of any length leads to the same place
(`Layout.skipLayout_eq`); the other readers succeed on just the inputs that start
with their part.
-/

namespace ShadowLint.Dump

open Text (takeWhile_run dropWhile_run head_dropWhile)

/-! ## Layout -/

theorem skipComment_body {body after : List Char} (inside : '\n' ∉ body)
    (ends : ∀ char ∈ after.head?, char = '\n') : skipComment (body ++ after) = after := by
  apply dropWhile_run
  · intro char member
    have notLineFeed : char ≠ '\n' := fun equal => inside (equal ▸ member)
    simp [notLineFeed]
  · intro char first
    simp [ends char first]

theorem lineFeed_not_mem_takeWhile (input : List Char) :
    '\n' ∉ input.takeWhile (· ≠ '\n') := by
  intro member
  have outside := List.mem_takeWhile_imp member
  simp at outside

theorem head_skipComment (input : List Char) : ∀ char ∈ (skipComment input).head?, char = '\n' := by
  intro char first
  simpa using head_dropWhile (· ≠ '\n') input char first

theorem Layout.skippedComment {input rest : List Char}
    (after : Layout (skipComment input) rest) : Layout (';' :: input) rest := by
  have split : input.takeWhile (· ≠ '\n') ++ skipComment input = input :=
    List.takeWhile_append_dropWhile
  rw [← split]
  exact Layout.comment (lineFeed_not_mem_takeWhile input) (head_skipComment input) after

theorem length_skipComment (input : List Char) : (skipComment input).length ≤ input.length :=
  (List.dropWhile_sublist _).length_le

theorem skipLayout_of_head {input : List Char}
    (other : ∀ char ∈ input.head?, isLayoutStart char = false) : skipLayout input = input := by
  cases input with
  | nil => rfl
  | cons char rest => exact skipLayout_other (other char rfl) rest

theorem layout_skipLayout (input : List Char) : Layout input (skipLayout input) := by
  induction size : input.length using Nat.strong_induction_on generalizing input with
  | _ size induction =>
    cases input with
    | nil => exact .done []
    | cons char rest =>
      subst size
      cases starts : isLayoutStart char with
      | false =>
        rw [skipLayout_other starts]
        exact .done _
      | true =>
        simp only [isLayoutStart, Bool.or_eq_true, decide_eq_true_eq] at starts
        rcases starts with semicolon | blank
        · subst semicolon
          have shorter := length_skipComment rest
          rw [skipLayout_comment]
          exact .skippedComment (induction _ (by simp; omega) _ rfl)
        · rw [skipLayout_blank blank]
          exact .blank blank (induction _ (by simp) _ rfl)

namespace Layout

variable {input rest : List Char} (layout : Layout input rest)

include layout in
theorem skipLayout_eq : skipLayout input = skipLayout rest := by
  induction layout with
  | done => rfl
  | blank blank _ induction => rw [skipLayout_blank blank, induction]
  | comment inside ends _ induction =>
    rw [skipLayout_comment, skipComment_body inside ends, induction]

include layout in
theorem skipLayout_eq_rest (other : ∀ char ∈ rest.head?, isLayoutStart char = false) :
    skipLayout input = rest := by
  rw [layout.skipLayout_eq, skipLayout_of_head other]

include layout in
theorem suffix : rest <:+ input := by
  induction layout with
  | done => exact List.suffix_rfl
  | blank _ _ induction => exact induction.trans (List.suffix_cons _ _)
  | comment _ _ _ induction =>
    exact induction.trans ((List.suffix_append _ _).trans (List.suffix_cons _ _))

include layout in
theorem length_le : rest.length ≤ input.length := layout.suffix.length_le

include layout in
theorem head : input = rest ∨ ∃ char ∈ input.head?, isLayoutStart char = true := by
  cases layout with
  | done => exact .inl rfl
  | blank blank => exact .inr ⟨_, rfl, by simp [isLayoutStart, blank]⟩
  | comment => exact .inr ⟨_, rfl, by simp [isLayoutStart]⟩

end Layout

theorem length_skipLayout (input : List Char) : (skipLayout input).length ≤ input.length :=
  (layout_skipLayout input).length_le

/-! ## Quoted texts -/

theorem Quoted.quotedText?_eq {input content rest : List Char}
    (quoted : Quoted input content rest) :
    quotedText? input = some (content, rest) := by
  induction quoted with
  | close rest => exact quotedText?_close rest
  | plain notQuote notEscape _ induction =>
    rw [quotedText?_plain notQuote notEscape, induction]
    rfl
  | escaped notLineFeed _ induction =>
    rw [quotedText?_escaped notLineFeed, induction]
    rfl

theorem quoted_of_quotedText? {input content rest : List Char}
    (found : quotedText? input = some (content, rest)) : Quoted input content rest := by
  induction size : input.length using Nat.strong_induction_on generalizing input content with
  | _ size induction =>
    subst size
    match input with
    | [] => cases found
    | char :: input =>
      by_cases quote : char = '"'
      · subst quote
        rw [quotedText?_close] at found
        cases found
        exact .close rest
      by_cases escape : char = '\\'
      · subst escape
        match input with
        | [] => cases found
        | char :: input =>
          by_cases lineFeed : char = '\n'
          · subst lineFeed
            cases found
          · rw [quotedText?_escaped lineFeed] at found
            rcases Option.map_eq_some_iff.mp found with ⟨⟨inner, after⟩, read, answered⟩
            cases answered
            have shorter : input.length < ('\\' :: char :: input).length := by
              simp only [List.length_cons]
              omega
            exact .escaped lineFeed (induction _ shorter read rfl)
      · rw [quotedText?_plain quote escape] at found
        rcases Option.map_eq_some_iff.mp found with ⟨⟨inner, after⟩, read, answered⟩
        cases answered
        exact .plain quote escape (induction _ (by simp) read rfl)

theorem Quoted.length_lt {input content rest : List Char} (quoted : Quoted input content rest) :
    rest.length < input.length := by
  induction quoted with
  | close => simp
  | plain _ _ _ induction =>
    rw [List.length_cons]
    omega
  | escaped _ _ induction =>
    rw [List.length_cons, List.length_cons]
    omega

theorem Quoted.suffix {input content rest : List Char} (quoted : Quoted input content rest) :
    rest <:+ input := by
  induction quoted with
  | close => exact List.suffix_cons _ _
  | plain _ _ _ induction => exact induction.trans (List.suffix_cons _ _)
  | escaped _ _ induction =>
    exact induction.trans ((List.suffix_cons _ _).trans (List.suffix_cons _ _))

/-! ## Names and numerals -/

theorem IsName.name?_eq {name rest : List Char} (isName : IsName name rest) :
    name? (name ++ rest) = some (name, rest) := by
  rcases isName.start with ⟨first, isFirst, starts⟩
  cases name with
  | nil => cases isFirst
  | cons char others =>
    cases isFirst
    have parts : ∀ char ∈ others, isNamePart char = true := isName.parts
    rw [List.cons_append, name?, if_pos starts, takeWhile_run parts isName.longest,
      dropWhile_run parts isName.longest]

theorem isName_of_name? {input name rest : List Char} (found : name? input = some (name, rest)) :
    input = name ++ rest ∧ IsName name rest := by
  cases input with
  | nil => cases found
  | cons first others =>
    rw [name?] at found
    split at found
    · rename_i starts
      cases found
      refine ⟨by simp, ⟨first, rfl, starts⟩, ?_, head_dropWhile _ _⟩
      intro char member
      exact List.mem_takeWhile_imp member
    · cases found

theorem IsNumeral.digits?_eq {digits rest : List Char} (numeral : IsNumeral digits)
    (ends : ∀ char ∈ rest.head?, char.isDigit = false) :
    digits? (digits ++ rest) = some (digits, rest) := by
  rw [digits?, takeWhile_run numeral.digits ends, dropWhile_run numeral.digits ends]
  simp [numeral.nonempty]

theorem isNumeral_of_digits? {input digits rest : List Char}
    (found : digits? input = some (digits, rest)) : input = digits ++ rest ∧ IsNumeral digits := by
  unfold digits? at found
  dsimp only at found
  split at found
  · cases found
  · rename_i nonempty
    cases found
    refine ⟨List.takeWhile_append_dropWhile.symm, by simpa using nonempty, ?_⟩
    intro char member
    exact List.mem_takeWhile_imp member

/-! ## Attributes -/

theorem RendersAttribute.attribute?_eq {single : Attribute} {input rest : List Char}
    (renders : RendersAttribute single input rest)
    (ends : ∀ char ∈ rest.head?, char.isDigit = false) :
    attribute? input = some (single, rest) := by
  cases renders with
  | text quoted => rw [attribute?, quoted.quotedText?_eq, Option.map_some]
  | @position line column _ isLine isColumn =>
    have colon : ∀ char ∈ (':' :: (column ++ rest)).head?, char.isDigit = false := by
      rintro char ⟨⟩
      decide
    rw [attribute?, position?, isLine.digits?_eq colon]
    simp [isColumn.digits?_eq ends]

theorem rendersAttribute_of_attribute? {single : Attribute} {input rest : List Char}
    (found : attribute? input = some (single, rest)) : RendersAttribute single input rest := by
  unfold attribute? at found
  split at found
  · rcases Option.map_eq_some_iff.mp found with ⟨⟨content, after⟩, read, answered⟩
    cases answered
    exact .text (quoted_of_quotedText? read)
  · rename_i digits
    unfold position? at found
    cases lineRead : digits? digits with
    | none => simp [lineRead] at found
    | some read =>
      rcases read with ⟨line, afterLine⟩
      rcases isNumeral_of_digits? lineRead with ⟨rfl, isLine⟩
      rw [lineRead] at found
      dsimp only at found
      split at found
      · rcases Option.map_eq_some_iff.mp found with ⟨⟨column, after⟩, columnRead, answered⟩
        rcases isNumeral_of_digits? columnRead with ⟨rfl, isColumn⟩
        cases answered
        exact .position _ isLine isColumn
      · cases found
  · cases found

theorem RendersAttribute.length_lt {single : Attribute} {input rest : List Char}
    (renders : RendersAttribute single input rest) : rest.length < input.length := by
  cases renders with
  | text quoted =>
    have shorter := quoted.length_lt
    rw [List.length_cons]
    omega
  | position =>
    simp only [List.length_cons, List.length_append]
    omega

theorem RendersAttribute.suffix {single : Attribute} {input rest : List Char}
    (renders : RendersAttribute single input rest) : rest <:+ input := by
  cases renders with
  | text quoted => exact quoted.suffix.trans (List.suffix_cons _ _)
  | @position line column _ _ _ =>
    have behindColon : rest <:+ ':' :: (column ++ rest) :=
      (List.suffix_append column rest).trans (List.suffix_cons _ _)
    exact behindColon.trans ((List.suffix_append line _).trans (List.suffix_cons _ _))

theorem RendersAttributes.suffix {attributes : List Attribute} {input rest : List Char}
    (renders : RendersAttributes attributes input rest) : rest <:+ input := by
  induction renders with
  | nil => exact List.suffix_rfl
  | cons first layout _ induction => exact induction.trans (layout.suffix.trans first.suffix)

theorem Renders.suffix {forest : List Written} {input rest : List Char}
    (renders : Renders forest input rest) : rest <:+ input := by
  induction renders with
  | nil => exact List.suffix_rfl
  | @cons name attributes children others opened afterName described inside closed next rest
      layoutOpened _ layoutName rendersAttributes _ layoutClosed _
      inductionChildren inductionOthers =>
    have described : described <:+ opened :=
      layoutName.suffix.trans ((List.suffix_append name afterName).trans layoutOpened.suffix)
    have closed : closed <:+ opened := (List.suffix_cons ')' closed).trans
      (inductionChildren.trans (rendersAttributes.suffix.trans described))
    exact inductionOthers.trans (layoutClosed.suffix.trans (closed.trans (List.suffix_cons _ _)))

end ShadowLint.Dump
