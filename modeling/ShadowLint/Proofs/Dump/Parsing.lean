import ShadowLint.Proofs.Dump.Reading

/-!
Reading and grammar agree. What is read off an input is what the grammar derives
from it (`renders_treesAt`), and whatever the grammar derives from the start of an
input is the start of what is read off it (`Renders.treesAt_eq`). A text is
therefore a rendering of one forest at most, and that forest is what is read.
-/

namespace ShadowLint.Dump

/-! ## Attributes -/

theorem attribute?_bracket {input : List Char}
    (bracket : ∀ char ∈ input.head?, char = '(' ∨ char = ')') : attribute? input = none := by
  cases input with
  | nil => rfl
  | cons char rest =>
    rcases bracket char rfl with opening | closing
    · subst opening
      rfl
    · subst closing
      rfl

theorem separates {char : Char} (mark : char = '(' ∨ char = ')' ∨ char = '"' ∨ char = '@') :
    isLayoutStart char = false ∧ char.isDigit = false := by
  rcases mark with equal | equal | equal | equal
  all_goals
    subst equal
    decide

theorem separates_of_bracket {char : Char} (bracket : char = '(' ∨ char = ')') :
    isLayoutStart char = false ∧ char.isDigit = false :=
  separates (bracket.imp_right .inl)

theorem isDigit_of_isLayoutStart {char : Char} (starts : isLayoutStart char = true) :
    char.isDigit = false := by
  cases digit : char.isDigit with
  | false => rfl
  | true =>
    rw [isLayoutStart_of_isNamePart (isNamePart_of_isDigit digit)] at starts
    cases starts

theorem IsName.isLayoutStart_head {name afterName : List Char} (isName : IsName name afterName) :
    ∀ char ∈ (name ++ afterName).head?, isLayoutStart char = false := by
  intro char isHead
  rcases isName.start with ⟨first, isFirst, starts⟩
  have same : first = char := by
    rw [List.head?_append, isFirst] at isHead
    exact Option.some.inj isHead
  exact isLayoutStart_of_isNamePart (isNamePart_of_start (same ▸ starts))

section attributes

variable {attributes : List Attribute} {input rest : List Char}

theorem RendersAttributes.separated (renders : RendersAttributes attributes input rest)
    (bracket : ∀ char ∈ rest.head?, char = '(' ∨ char = ')') :
    ∀ char ∈ input.head?, isLayoutStart char = false ∧ char.isDigit = false := by
  intro char isHead
  rcases renders.head with equal | ⟨mark, isMark, isAttribute⟩
  · exact separates_of_bracket (bracket char (equal ▸ isHead))
  · have same : mark = char := Option.some.inj (isMark.symm.trans isHead)
    exact separates (.inr (.inr (same ▸ isAttribute)))

theorem RendersAttributes.attributesAt_eq (renders : RendersAttributes attributes input rest)
    (bracket : ∀ char ∈ rest.head?, char = '(' ∨ char = ')') :
    attributesAt input = (attributes, rest) := by
  induction renders with
  | nil => rw [Dump.attributesAt_eq, attribute?_bracket bracket]
  | @cons single others input afterFirst next rest first layout renders induction =>
    have marks := renders.separated bracket
    have noDigit : ∀ char ∈ afterFirst.head?, char.isDigit = false := by
      intro char isHead
      rcases layout.head with equal | ⟨start, isStart, starts⟩
      · exact (marks char (equal ▸ isHead)).2
      · have same : start = char := Option.some.inj (isStart.symm.trans isHead)
        exact isDigit_of_isLayoutStart (same ▸ starts)
    have skipped := layout.skipLayout_eq_rest fun char isHead => (marks char isHead).1
    rw [Dump.attributesAt_eq, first.attribute?_eq noDigit]
    dsimp only
    rw [skipped, induction bracket]

theorem rendersAttributes_attributesAt (input : List Char) :
    RendersAttributes (attributesAt input).1 input (attributesAt input).2 := by
  induction size : input.length using Nat.strong_induction_on generalizing input with
  | _ size induction =>
    subst size
    rw [Dump.attributesAt_eq]
    cases found : attribute? input with
    | none => exact .nil input
    | some read =>
      rcases read with ⟨single, afterFirst⟩
      have first := rendersAttribute_of_attribute? found
      have shorter := first.length_lt
      have skipped := length_skipLayout afterFirst
      exact .cons first (layout_skipLayout afterFirst) (induction _ (by omega) _ rfl)

end attributes

/-! ## Trees -/

/-- What is read off an input is what the grammar derives from it. -/
theorem renders_treesAt (input : List Char) :
    Renders (treesAt input).1 input (treesAt input).2 := by
  induction size : input.length using Nat.strong_induction_on generalizing input with
  | _ size induction =>
    subst size
    cases input with
    | nil => exact .nil []
    | cons char opened =>
      by_cases opening : char = '('
      · subst opening
        rw [treesAt_opening]
        cases found : nodeAt? opened with
        | none => exact .nil _
        | some read =>
          rcases read with ⟨tree, rest⟩
          have rest_le := length_nodeAt? found
          have others := induction rest.length (by rw [List.length_cons]; omega) rest rfl
          rcases nodeBy_eq_some found with
            ⟨name, afterName, children, closed, named, childrenRead, rfl, rfl⟩
          have afterName_le := length_after_name named
          have attributes_le := length_attributesAt (skipLayout afterName)
          have inner := induction _ (by rw [List.length_cons]; omega)
            (attributesAt (skipLayout afterName)).2 rfl
          rw [childrenRead] at inner
          have layout := layout_skipLayout opened
          rcases isName_of_name? named with ⟨split, isName⟩
          rw [split] at layout ⊢
          exact .cons layout isName (layout_skipLayout afterName)
            (rendersAttributes_attributesAt _) inner (layout_skipLayout closed) others
      · rw [treesAt_other opening]
        exact .nil _

/-- What the grammar derives from the start of an input is read first, and reading
goes on behind the layout that follows. -/
theorem Renders.treesAt_eq {forest : List Written} {input rest : List Char}
    (renders : Renders forest input rest) :
    treesAt (skipLayout input) =
      (forest ++ (treesAt (skipLayout rest)).1, (treesAt (skipLayout rest)).2) := by
  induction renders with
  | nil => simp
  | @cons name attributes children others opened afterName described inside closed next rest
      layoutOpened isName layoutName rendersAttributes rendersChildren layoutClosed rendersOthers
      inductionChildren inductionOthers =>
    have insideBracket : ∀ char ∈ inside.head?, char = '(' ∨ char = ')' := by
      intro char isHead
      rcases rendersChildren.head with equal | ⟨after, equal⟩
      · rw [equal] at isHead
        exact .inr (Option.some.inj isHead).symm
      · rw [equal] at isHead
        exact .inl (Option.some.inj isHead).symm
    have describedOther : ∀ char ∈ described.head?, isLayoutStart char = false := by
      intro char isHead
      exact (rendersAttributes.separated insideBracket char isHead).1
    have closing : skipLayout (')' :: closed) = ')' :: closed := skipLayout_other (by decide) _
    have childrenRead : treesAt inside = (children, ')' :: closed) := by
      rw [closing, treesAt_other (by decide), skipLayout_of_head] at inductionChildren
      · simpa using inductionChildren
      · intro char isHead
        exact (separates_of_bracket (insideBracket char isHead)).1
    have node : nodeAt? opened =
        some (.node name (name ++ afterName) attributes children, skipLayout next) := by
      rw [nodeAt?, nodeBy, layoutOpened.skipLayout_eq_rest isName.isLayoutStart_head,
        isName.name?_eq]
      dsimp only
      rw [layoutName.skipLayout_eq_rest describedOther,
        rendersAttributes.attributesAt_eq insideBracket]
      dsimp only
      rw [childrenRead, ← layoutClosed.skipLayout_eq]
      rfl
    rw [skipLayout_other (by decide), treesAt_opening, node]
    dsimp only
    rw [inductionOthers]
    rfl

/-! ## Forests -/

theorem isForest_iff {forest : List Written} {text : List Char} :
    IsForest forest text ↔ readForest text = (forest, []) := by
  rw [readForest_eq]
  constructor
  · rintro ⟨body, layout, renders⟩
    rw [layout.skipLayout_eq, renders.treesAt_eq]
    simp
  · intro read
    have renders := renders_treesAt (skipLayout text)
    rw [read] at renders
    exact ⟨_, layout_skipLayout text, renders⟩

theorem IsForest.unique {first second : List Written} {text : List Char}
    (isFirst : IsForest first text) (isSecond : IsForest second text) : first = second := by
  rw [isForest_iff] at isFirst isSecond
  exact congrArg Prod.fst (isFirst.symm.trans isSecond)

end ShadowLint.Dump
