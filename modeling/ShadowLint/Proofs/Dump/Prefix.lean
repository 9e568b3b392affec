import ShadowLint.Proofs.Dump.Parsing

/-!
Well-formed texts at the start of a text. A derivation that leaves the end of an
input over is also one from the input without that end (`Renders.cut`), and a
derivation from an input goes on when more text follows, where only the layout at
its very end can change (`Renders.extend`). So what reading a text passes is its
longest start that is well formed (`readForest_isLongest`).
-/

namespace ShadowLint.Dump

variable {input rest tail : List Char}

theorem mem_head?_append {start : List Char} {char : Char} (first : char ∈ start.head?)
    (tail : List Char) : char ∈ (start ++ tail).head? := by
  cases start with
  | nil => cases first
  | cons head others => exact first

theorem mem_head?_of_append {start : List Char} {char : Char} (nonempty : start ≠ [])
    (first : char ∈ (start ++ tail).head?) : char ∈ start.head? := by
  cases start with
  | nil => exact absurd rfl nonempty
  | cons head others => exact first

/-! ## Without the end -/

theorem Layout.cut (layout : Layout input (rest ++ tail)) :
    ∃ start, input = start ++ tail ∧ Layout start rest := by
  generalize whole : rest ++ tail = after at layout
  induction layout with
  | done => exact ⟨rest, whole.symm, .done rest⟩
  | blank blank _ induction =>
    rcases induction whole with ⟨start, rfl, inner⟩
    exact ⟨_ :: start, rfl, .blank blank inner⟩
  | @comment body after rest inside ends _ induction =>
    rcases induction whole with ⟨start, rfl, inner⟩
    refine ⟨';' :: (body ++ start), by simp, .comment inside ?_ inner⟩
    intro char first
    exact ends char (mem_head?_append first tail)

theorem Quoted.cut {content : List Char} (quoted : Quoted input content (rest ++ tail)) :
    ∃ start, input = start ++ tail ∧ Quoted start content rest := by
  generalize whole : rest ++ tail = after at quoted
  induction quoted with
  | close =>
    subst whole
    exact ⟨'"' :: rest, rfl, .close rest⟩
  | plain notQuote notEscape _ induction =>
    rcases induction whole with ⟨start, rfl, inner⟩
    exact ⟨_ :: start, rfl, .plain notQuote notEscape inner⟩
  | escaped notLineFeed _ induction =>
    rcases induction whole with ⟨start, rfl, inner⟩
    exact ⟨'\\' :: _ :: start, rfl, .escaped notLineFeed inner⟩

theorem IsName.cut {name : List Char} (isName : IsName name (rest ++ tail)) : IsName name rest :=
  ⟨isName.start, isName.parts, fun char first =>
    isName.longest char (mem_head?_append first tail)⟩

theorem RendersAttribute.cut {single : Attribute}
    (renders : RendersAttribute single input (rest ++ tail)) :
    ∃ start, input = start ++ tail ∧ RendersAttribute single start rest := by
  cases renders with
  | text quoted =>
    rcases quoted.cut with ⟨start, rfl, inner⟩
    exact ⟨'"' :: start, rfl, .text inner⟩
  | @position line column _ isLine isColumn =>
    exact ⟨'@' :: (line ++ ':' :: (column ++ rest)), by simp, .position rest isLine isColumn⟩

theorem RendersAttributes.cut {attributes : List Attribute}
    (renders : RendersAttributes attributes input (rest ++ tail)) :
    ∃ start, input = start ++ tail ∧ RendersAttributes attributes start rest := by
  generalize whole : rest ++ tail = after at renders
  induction renders with
  | nil => exact ⟨rest, whole.symm, .nil rest⟩
  | cons first layout _ induction =>
    rcases induction whole with ⟨next, rfl, others⟩
    rcases layout.cut with ⟨afterFirst, rfl, layoutCut⟩
    rcases first.cut with ⟨start, rfl, firstCut⟩
    exact ⟨start, rfl, .cons firstCut layoutCut others⟩

theorem Renders.cut {forest : List Written} (renders : Renders forest input (rest ++ tail)) :
    ∃ start, input = start ++ tail ∧ ∃ shortened, Renders shortened start rest := by
  generalize whole : rest ++ tail = after at renders
  induction renders generalizing rest with
  | nil => exact ⟨rest, whole.symm, [], .nil rest⟩
  | @cons name attributes children others opened afterName described inside closed next after
      layoutOpened isName layoutName rendersAttributes _ layoutClosed _
      inductionChildren inductionOthers =>
    rcases inductionOthers whole with ⟨next, rfl, others, othersCut⟩
    rcases layoutClosed.cut with ⟨closed, rfl, closedCut⟩
    rcases @inductionChildren (')' :: closed) rfl with ⟨inside, rfl, children, childrenCut⟩
    rcases rendersAttributes.cut with ⟨described, rfl, attributesCut⟩
    rcases layoutName.cut with ⟨afterName, rfl, nameCut⟩
    rw [← List.append_assoc] at layoutOpened
    rcases layoutOpened.cut with ⟨opened, rfl, openedCut⟩
    exact ⟨'(' :: opened, rfl, _, .cons openedCut isName.cut nameCut attributesCut childrenCut
      closedCut othersCut⟩

/-! ## With more text -/

theorem Layout.ne_nil (layout : Layout input rest) (nonempty : rest ≠ []) : input ≠ [] := by
  rintro rfl
  cases layout
  exact nonempty rfl

/-- Layout goes on with more text: only where it comes to the end of the input can it
go on beyond it. -/
theorem Layout.extend (layout : Layout input rest) (tail : List Char) :
    ∃ after, Layout (input ++ tail) after ∧ after.length ≤ (rest ++ tail).length ∧
      (rest ≠ [] → after = rest ++ tail) := by
  induction layout with
  | done input => exact ⟨input ++ tail, .done _, le_rfl, fun _ => rfl⟩
  | blank blank _ induction =>
    rcases induction with ⟨after, layout, bound, same⟩
    exact ⟨after, .blank blank layout, bound, same⟩
  | @comment body after rest inside ends layout induction =>
    rw [List.cons_append, List.append_assoc]
    by_cases nonempty : after = []
    · subst nonempty
      have empty : rest = [] := by
        cases layout
        rfl
      subst empty
      have inBody : ∀ char ∈ body, decide (char ≠ '\n') = true := by
        intro char member
        have notLineFeed : char ≠ '\n' := fun equal => inside (equal ▸ member)
        simp [notLineFeed]
      have skipped : skipComment (body ++ tail) = skipComment tail :=
        List.dropWhile_append_of_pos inBody
      refine ⟨skipComment tail, .skippedComment ?_, length_skipComment tail, fun none => ?_⟩
      · rw [List.nil_append, skipped]
        exact .done _
      · exact absurd rfl none
    · rcases induction with ⟨final, layout, bound, same⟩
      refine ⟨final, .comment inside ?_ layout, bound, same⟩
      intro char first
      exact ends char (mem_head?_of_append nonempty first)

theorem Quoted.extend {content : List Char} (quoted : Quoted input content rest)
    (tail : List Char) : Quoted (input ++ tail) content (rest ++ tail) := by
  induction quoted with
  | close => exact .close _
  | plain notQuote notEscape _ induction => exact .plain notQuote notEscape induction
  | escaped notLineFeed _ induction => exact .escaped notLineFeed induction

theorem IsName.extend {name : List Char} (isName : IsName name rest) (nonempty : rest ≠ [])
    (tail : List Char) : IsName name (rest ++ tail) :=
  ⟨isName.start, isName.parts, fun char first =>
    isName.longest char (mem_head?_of_append nonempty first)⟩

theorem RendersAttribute.extend {single : Attribute} (renders : RendersAttribute single input rest)
    (tail : List Char) : RendersAttribute single (input ++ tail) (rest ++ tail) := by
  cases renders with
  | text quoted => exact .text (quoted.extend tail)
  | position _ isLine isColumn =>
    simp only [List.cons_append, List.append_assoc]
    exact .position _ isLine isColumn

theorem RendersAttributes.ne_nil {attributes : List Attribute}
    (renders : RendersAttributes attributes input rest) (nonempty : rest ≠ []) : input ≠ [] := by
  rintro rfl
  rcases renders.head with equal | ⟨char, first, -⟩
  · exact nonempty equal.symm
  · cases first

theorem RendersAttributes.extend {attributes : List Attribute}
    (renders : RendersAttributes attributes input rest) (nonempty : rest ≠ [])
    (tail : List Char) : RendersAttributes attributes (input ++ tail) (rest ++ tail) := by
  induction renders with
  | nil => exact .nil _
  | cons first layout others induction =>
    rcases layout.extend tail with ⟨after, layout, -, same⟩
    rw [same (others.ne_nil nonempty)] at layout
    exact .cons (first.extend tail) layout (induction nonempty)

theorem Renders.nil_of_nil {forest : List Written} (renders : Renders forest [] rest) :
    rest = [] := by
  cases renders
  rfl

theorem Renders.extend {forest : List Written} (renders : Renders forest input rest)
    (tail : List Char) :
    ∃ extended after, Renders extended (input ++ tail) after ∧
      after.length ≤ (rest ++ tail).length ∧ (rest ≠ [] → after = rest ++ tail) := by
  induction renders with
  | nil input => exact ⟨[], input ++ tail, .nil _, le_rfl, fun _ => rfl⟩
  | @cons name attributes children others opened afterName described inside closed next rest
      layoutOpened isName layoutName rendersAttributes rendersChildren layoutClosed rendersOthers
      inductionChildren inductionOthers =>
    have insideNonempty : inside ≠ [] := by
      rcases rendersChildren.head with equal | ⟨after, equal⟩
      · simp [equal]
      · simp [equal]
    have describedNonempty := rendersAttributes.ne_nil insideNonempty
    have afterNonempty := layoutName.ne_nil describedNonempty
    have nameNonempty : name ++ afterName ≠ [] := by simp [afterNonempty]
    rcases layoutOpened.extend tail with ⟨_, openedExtended, -, same⟩
    rw [same nameNonempty, List.append_assoc] at openedExtended
    rcases layoutName.extend tail with ⟨_, nameExtended, -, same⟩
    rw [same describedNonempty] at nameExtended
    have attributesExtended := rendersAttributes.extend insideNonempty tail
    rcases inductionChildren with ⟨children, _, childrenExtended, -, same⟩
    rw [same (by simp)] at childrenExtended
    have isNameExtended := isName.extend afterNonempty tail
    rcases layoutClosed.extend tail with ⟨after, closedExtended, bound, same⟩
    by_cases nextNonempty : next = []
    · subst nextNonempty
      have empty := rendersOthers.nil_of_nil
      subst empty
      exact ⟨_, after, .cons openedExtended isNameExtended nameExtended attributesExtended
        childrenExtended closedExtended (.nil after), bound, fun none => absurd rfl none⟩
    · rw [same nextNonempty] at closedExtended
      rcases inductionOthers with ⟨others, final, othersExtended, boundOthers, sameOthers⟩
      exact ⟨_, final, .cons openedExtended isNameExtended nameExtended attributesExtended
        childrenExtended closedExtended othersExtended, boundOthers, sameOthers⟩

/-! ## What reading passes -/

/-- The text is a start and a rest, the start is well formed, and no longer start is. -/
structure IsLongest (text start rest : List Char) : Prop where
  split : text = start ++ rest
  wellFormed : IsWellFormed start
  longest : ∀ other tail, text = other ++ tail → IsWellFormed other → other.length ≤ start.length

theorem isWellFormed_read (text : List Char) :
    ∃ start, text = start ++ (readForest text).2 ∧ IsWellFormed start := by
  have renders := renders_treesAt (skipLayout text)
  rw [readForest_eq]
  rcases @Renders.cut _ [] _ _ renders with ⟨body, split, forest, renders⟩
  have layout := layout_skipLayout text
  rw [split] at layout
  rcases layout.cut with ⟨start, splitText, layout⟩
  exact ⟨start, splitText, forest, body, layout, renders⟩

theorem length_readForest_le {text other : List Char} (split : text = other ++ tail)
    (wellFormed : IsWellFormed other) : (readForest text).2.length ≤ tail.length := by
  rcases wellFormed with ⟨forest, body, layout, renders⟩
  rcases layout.extend tail with ⟨after, layout, bound, same⟩
  rw [readForest_eq, split, layout.skipLayout_eq]
  by_cases nonempty : body = []
  · subst nonempty
    have read := length_treesAt (skipLayout after)
    have skipped := length_skipLayout after
    rw [List.nil_append] at bound
    omega
  · rcases renders.extend tail with ⟨extended, final, renders, boundToo, -⟩
    rw [same nonempty, renders.treesAt_eq]
    have read := length_treesAt (skipLayout final)
    have skipped := length_skipLayout final
    rw [List.nil_append] at boundToo
    dsimp only
    omega

theorem readForest_isLongest (text : List Char) :
    ∃ start, IsLongest text start (readForest text).2 := by
  rcases isWellFormed_read text with ⟨start, split, wellFormed⟩
  refine ⟨start, split, wellFormed, ?_⟩
  intro other tail splitOther wellFormedOther
  have left := length_readForest_le splitOther wellFormedOther
  have lengths := congrArg List.length (split.symm.trans splitOther)
  rw [List.length_append, List.length_append] at lengths
  omega

theorem IsLongest.unique {text start other rest : List Char} (isLongest : IsLongest text start rest)
    (isLongestToo : IsLongest text other tail) : start = other ∧ rest = tail := by
  have le := isLongestToo.longest start rest isLongest.split isLongest.wellFormed
  have ge := isLongest.longest other tail isLongestToo.split isLongestToo.wellFormed
  exact List.append_inj (isLongest.split.symm.trans isLongestToo.split) (by omega)

end ShadowLint.Dump
