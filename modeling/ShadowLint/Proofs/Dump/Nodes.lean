import ShadowLint.Proofs.Dump.Rejection

/-!
The nodes of a dump where they are written, and what counting parentheses says of
them. Trees that are rendered open their nodes in the order in which they are listed
(`RendersNodes`). The first node beyond the limit is where the count exceeds it
(`HasNodes.exceedsAt`). In a start that can be completed to trees the count rises to
the number of the nodes that are open at its end, however the text goes on
(`HasNodes.risesBy`).
-/

namespace ShadowLint.Dump

/-! ## Nodes -/

/-- A node where it is written: the number of the nodes that it stands in, itself
included, and the text behind its opening and behind its closing parenthesis. -/
structure WrittenNode where
  level : Nat
  opened : List Char
  closed : List Char

/-- Where `tail` starts, the node has been opened and has not been closed. -/
def WrittenNode.IsOpenAt (tail : List Char) (node : WrittenNode) : Prop :=
  tail.length ≤ node.opened.length ∧ node.closed.length < tail.length

instance (tail : List Char) (node : WrittenNode) : Decidable (node.IsOpenAt tail) :=
  inferInstanceAs (Decidable (_ ∧ _))

/-- Trees that stand in `around` nodes, with their own nodes in the order of the
opening parentheses. -/
inductive RendersNodes : (around : Nat) → List Written → (input rest : List Char) →
    List WrittenNode → Prop
  | nil (around : Nat) (input : List Char) : RendersNodes around [] input input []
  | cons {around : Nat} {name : List Char} {attributes : List Attribute}
      {children others : List Written}
      {opened afterName described inside closed next rest : List Char}
      {inner outer : List WrittenNode} :
      Layout opened (name ++ afterName) → IsName name afterName → Layout afterName described →
      RendersAttributes attributes described inside →
      RendersNodes (around + 1) children inside (')' :: closed) inner → Layout closed next →
      RendersNodes around others next rest outer →
      RendersNodes around (.node name (name ++ afterName) attributes children :: others)
        ('(' :: opened) rest (⟨around + 1, opened, closed⟩ :: (inner ++ outer))

def HasNodes (forest : List Written) (text : List Char) (nodes : List WrittenNode) : Prop :=
  ∃ body, Layout text body ∧ RendersNodes 0 forest body [] nodes

theorem Renders.exists_nodes {forest : List Written} {input rest : List Char}
    (renders : Renders forest input rest) (around : Nat) :
    ∃ nodes, RendersNodes around forest input rest nodes := by
  induction renders generalizing around with
  | nil => exact ⟨[], .nil around _⟩
  | cons layoutOpened isName layoutName rendersAttributes _ layoutClosed _
      inductionChildren inductionOthers =>
    rcases inductionChildren (around + 1) with ⟨inner, children⟩
    rcases inductionOthers around with ⟨outer, others⟩
    exact ⟨_, .cons layoutOpened isName layoutName rendersAttributes children layoutClosed others⟩

theorem suffix_head {name attributes} {opened afterName described inside : List Char}
    (layoutOpened : Layout opened (name ++ afterName)) (layoutName : Layout afterName described)
    (rendersAttributes : RendersAttributes attributes described inside) : inside <:+ opened :=
  rendersAttributes.suffix.trans
    (layoutName.suffix.trans ((List.suffix_append name afterName).trans layoutOpened.suffix))

namespace RendersNodes

variable {around : Nat} {forest : List Written} {input rest : List Char}
  {nodes : List WrittenNode}

theorem renders (listed : RendersNodes around forest input rest nodes) :
    Renders forest input rest := by
  induction listed with
  | nil => exact .nil _
  | cons layoutOpened isName layoutName rendersAttributes _ layoutClosed _ children others =>
    exact .cons layoutOpened isName layoutName rendersAttributes children layoutClosed others

theorem exists_at_level (listed : RendersNodes around forest input rest nodes) {level : Nat}
    (below : around < level) (reached : level ≤ around + levelsOf forest) :
    ∃ node ∈ nodes, node.level = level := by
  induction listed with
  | nil =>
    rw [levelsOf] at reached
    omega
  | @cons around name attributes children others opened afterName described inside closed next
      rest inner outer _ _ _ _ _ _ _ inductionChildren inductionOthers =>
    rw [levelsOf, Written.levels] at reached
    by_cases here : around + 1 = level
    · exact ⟨_, List.mem_cons_self, here⟩
    · by_cases inChildren : level ≤ around + 1 + levelsOf children
      · rcases inductionChildren (by omega) inChildren with ⟨node, member, isAt⟩
        exact ⟨node, by simp [member], isAt⟩
      · rcases inductionOthers below (by omega) with ⟨node, member, isAt⟩
        exact ⟨node, by simp [member], isAt⟩

theorem node_inside (listed : RendersNodes around forest input rest nodes) :
    ∀ node ∈ nodes, rest.length ≤ node.closed.length ∧
      node.closed.length < node.opened.length ∧ node.opened.length < input.length := by
  induction listed with
  | nil => simp
  | @cons around name attributes children others opened afterName described inside closed next
      rest inner outer layoutOpened isName layoutName rendersAttributes renderedChildren
      layoutClosed renderedOthers inductionChildren inductionOthers =>
    have inside_le := (suffix_head layoutOpened layoutName rendersAttributes).length_le
    have closed_le := renderedChildren.renders.suffix.length_le
    have next_le := layoutClosed.length_le
    have rest_le := renderedOthers.renders.suffix.length_le
    rw [List.length_cons] at closed_le
    intro node member
    rw [List.length_cons]
    rcases List.mem_cons.mp member with here | below
    · subst here
      dsimp only
      omega
    · rcases List.mem_append.mp below with inChildren | inOthers
      · have bounds := inductionChildren node inChildren
        rw [List.length_cons] at bounds
        omega
      · have bounds := inductionOthers node inOthers
        omega

theorem in_order (listed : RendersNodes around forest input rest nodes) :
    nodes.Pairwise fun earlier later => later.opened.length < earlier.opened.length := by
  induction listed with
  | nil => exact .nil
  | @cons around name attributes children others opened afterName described inside closed next
      rest inner outer layoutOpened isName layoutName rendersAttributes renderedChildren
      layoutClosed renderedOthers orderedInner orderedOuter =>
    have inside_le := (suffix_head layoutOpened layoutName rendersAttributes).length_le
    have next_le := layoutClosed.length_le
    have closed_lt := renderedChildren.renders.suffix.length_le
    rw [List.length_cons] at closed_lt
    refine List.pairwise_cons.mpr ⟨fun node member => ?_, List.pairwise_append.mpr
      ⟨orderedInner, orderedOuter, fun node inChildren other inOthers => ?_⟩⟩
    · dsimp only
      rcases List.mem_append.mp member with inChildren | inOthers
      · have bounds := renderedChildren.node_inside node inChildren
        omega
      · have bounds := renderedOthers.node_inside node inOthers
        omega
    · have bounds := renderedChildren.node_inside node inChildren
      have boundsToo := renderedOthers.node_inside other inOthers
      rw [List.length_cons] at bounds
      omega

theorem countP_of_before (listed : RendersNodes around forest input rest nodes)
    {tail : List Char} (before : input.length ≤ tail.length) :
    nodes.countP (·.IsOpenAt tail) = 0 := by
  rw [List.countP_eq_zero]
  intro node member isOpen
  have bounds := listed.node_inside node member
  have opened := (of_decide_eq_true isOpen).1
  omega

theorem countP_of_behind (listed : RendersNodes around forest input rest nodes)
    {tail : List Char} (behind : tail.length ≤ rest.length) :
    nodes.countP (·.IsOpenAt tail) = 0 := by
  rw [List.countP_eq_zero]
  intro node member isOpen
  have bounds := listed.node_inside node member
  have unclosed := (of_decide_eq_true isOpen).2
  omega

end RendersNodes

/-! ## The first node beyond a limit -/

theorem scans_head {name attributes} {opened afterName described inside : List Char}
    (layoutOpened : Layout opened (name ++ afterName)) (isName : IsName name afterName)
    (layoutName : Layout afterName described)
    (rendersAttributes : RendersAttributes attributes described inside) (depth : Int) :
    Scans ⟨depth, opened⟩ depth ⟨depth, inside⟩ :=
  (layoutOpened.scans depth).chain ((isName.scans depth).chain
    ((layoutName.scans depth).chain (rendersAttributes.scans depth)))

theorem RendersNodes.scans_first {around : Nat} {forest : List Written} {input rest : List Char}
    {nodes : List WrittenNode} (listed : RendersNodes around forest input rest nodes)
    {limit : Nat} (within : around ≤ limit) {node : WrittenNode}
    (first : nodes.find? (·.level = limit + 1) = some node) :
    ∃ most ≤ (limit : Int), Scans ⟨around, input⟩ most ⟨limit, '(' :: node.opened⟩ := by
  induction listed with
  | nil => cases first
  | @cons around name attributes children others opened afterName described inside closed next
      rest inner outer layoutOpened isName layoutName rendersAttributes renderedChildren
      layoutClosed renderedOthers inductionChildren inductionOthers =>
    rw [List.find?_cons] at first
    by_cases here : around + 1 = limit + 1
    · have same : around = limit := by omega
      simp only [here, decide_true, Option.some.injEq] at first
      rw [← first, same]
      exact ⟨limit, le_rfl, .here _⟩
    · simp only [here, decide_false, List.find?_append] at first
      have start : Scans ⟨around, '(' :: opened⟩ _ ⟨around + 1, inside⟩ :=
        .step .opening (scans_head layoutOpened isName layoutName rendersAttributes _)
      cases inChildren : inner.find? (·.level = limit + 1) with
      | some found =>
        rw [inChildren, Option.some_or, Option.some.injEq] at first
        rcases inductionChildren (by omega) (first ▸ inChildren) with ⟨most, fits, way⟩
        have begins : max (around : Int) (around + 1) ≤ limit := by omega
        exact ⟨_, max_le begins fits, start.trans way⟩
      | none =>
        rw [inChildren, Option.none_or] at first
        rcases inductionOthers within first with ⟨most, fits, way⟩
        have shallow : around + 1 + levelsOf children ≤ limit := by
          by_contra deeper
          rcases renderedChildren.exists_at_level (show around + 1 < limit + 1 by omega)
            (by omega) with ⟨deep, member, isAt⟩
          exact List.find?_eq_none.mp inChildren deep member (decide_eq_true isAt)
        have across : Renders [.node name (name ++ afterName) attributes children]
            ('(' :: opened) next :=
          .cons layoutOpened isName layoutName rendersAttributes renderedChildren.renders
            layoutClosed (.nil next)
        refine ⟨_, max_le ?_ fits, (across.scans around).trans way⟩
        simp only [levelsOf, Written.levels]
        omega

theorem HasNodes.exceedsAt {forest : List Written} {text : List Char} {nodes : List WrittenNode}
    (listed : HasNodes forest text nodes) {node : WrittenNode}
    (first : nodes.find? (·.level = nestingLimit + 1) = some node) :
    ExceedsAt text node.opened := by
  rcases listed with ⟨body, layout, listed⟩
  rcases listed.scans_first (Nat.zero_le _) first with ⟨most, fits, way⟩
  exact ⟨most, fits, (layout.scans 0).chain way⟩

/-! ## Open nodes -/

/-- Going on from one start to the other changes no count, whatever text follows. -/
def Passes (start left : List Char) : Prop :=
  ∀ (other : List Char) (depth : Int), ∃ most,
    Scans ⟨depth, start ++ other⟩ most ⟨depth, left ++ other⟩

/-- Somewhere in the start the count has risen by `count`, whatever text follows. -/
def RisesBy (start : List Char) (count : Nat) : Prop :=
  ∃ left, ∀ (other : List Char) (depth : Int), ∃ most,
    Scans ⟨depth, start ++ other⟩ most ⟨depth + count, left ++ other⟩

namespace RisesBy

variable {start left : List Char} {count : Nat}

theorem stay (start : List Char) : RisesBy start 0 :=
  ⟨start, fun _ depth => ⟨depth, by simpa using .here _⟩⟩

theorem opening (rises : RisesBy start count) : RisesBy ('(' :: start) (count + 1) := by
  rcases rises with ⟨left, ways⟩
  refine ⟨left, fun other depth => ?_⟩
  rcases ways other (depth + 1) with ⟨most, way⟩
  have depths : depth + 1 + (count : Int) = depth + (count + 1 : Nat) := by omega
  rw [depths] at way
  exact ⟨_, .step .opening way⟩

theorem behind (passes : Passes start left) (rises : RisesBy left count) :
    RisesBy start count := by
  rcases rises with ⟨final, ways⟩
  refine ⟨final, fun other depth => ?_⟩
  rcases passes other depth with ⟨most, way⟩
  rcases ways other depth with ⟨mostToo, wayToo⟩
  exact ⟨_, way.trans wayToo⟩

end RisesBy

section passes

variable {tail left : List Char} (nonempty : left ≠ [])

include nonempty in
theorem Layout.passes {input : List Char} (layout : Layout input (left ++ tail)) :
    ∃ start, input = start ++ tail ∧ Passes start left := by
  rcases layout.cut with ⟨start, split, layout⟩
  refine ⟨start, split, fun other depth => ?_⟩
  rcases layout.extend other with ⟨after, extended, -, same⟩
  rw [same nonempty] at extended
  exact ⟨_, extended.scans depth⟩

include nonempty in
theorem Renders.passes {forest : List Written} {input : List Char}
    (renders : Renders forest input (left ++ tail)) :
    ∃ start, input = start ++ tail ∧ Passes start left := by
  rcases renders.cut with ⟨start, split, shortened, renders⟩
  refine ⟨start, split, fun other depth => ?_⟩
  rcases renders.extend other with ⟨extended, after, rendersToo, -, same⟩
  rw [same nonempty] at rendersToo
  exact ⟨_, rendersToo.scans depth⟩

include nonempty in
theorem passes_head {name attributes} {opened afterName described : List Char}
    (layoutOpened : Layout opened (name ++ afterName)) (isName : IsName name afterName)
    (layoutName : Layout afterName described)
    (rendersAttributes : RendersAttributes attributes described (left ++ tail)) :
    ∃ start, opened = start ++ tail ∧ Passes start left := by
  rcases rendersAttributes.cut with ⟨described, rfl, attributesCut⟩
  have describedNonempty := attributesCut.ne_nil nonempty
  rcases layoutName.cut with ⟨afterName, rfl, nameCut⟩
  have afterNonempty := nameCut.ne_nil describedNonempty
  have nameNonempty : name ++ afterName ≠ [] := by simp [afterNonempty]
  rw [← List.append_assoc] at layoutOpened
  rcases layoutOpened.cut with ⟨start, split, openedCut⟩
  refine ⟨start, split, fun other depth => ⟨depth, ?_⟩⟩
  rcases openedCut.extend other with ⟨_, openedExtended, -, same⟩
  rw [same nameNonempty, List.append_assoc] at openedExtended
  rcases nameCut.extend other with ⟨_, nameExtended, -, same⟩
  rw [same describedNonempty] at nameExtended
  exact scans_head openedExtended (isName.cut.extend afterNonempty other) nameExtended
    (attributesCut.extend nonempty other) depth

end passes

theorem exists_left {whole part tail : List Char} (partSuffix : part <:+ whole)
    (tailSuffix : tail <:+ whole) (longer : tail.length < part.length) :
    ∃ left, left ≠ [] ∧ part = left ++ tail := by
  rcases List.suffix_of_suffix_length_le tailSuffix partSuffix longer.le with ⟨left, rfl⟩
  refine ⟨left, ?_, rfl⟩
  rintro rfl
  simp at longer

theorem RendersNodes.risesBy {around : Nat} {forest : List Written} {input rest : List Char}
    {nodes : List WrittenNode} (listed : RendersNodes around forest input rest nodes)
    {start tail : List Char} (split : input = start ++ tail)
    (within : rest.length ≤ tail.length) :
    RisesBy start (nodes.countP (·.IsOpenAt tail)) := by
  induction listed generalizing start with
  | nil => exact .stay start
  | @cons around name attributes children others opened afterName described inside closed next
      rest inner outer layoutOpened isName layoutName rendersAttributes renderedChildren
      layoutClosed renderedOthers inductionChildren inductionOthers =>
    have across : Renders [.node name (name ++ afterName) attributes children]
        ('(' :: opened) next :=
      .cons layoutOpened isName layoutName rendersAttributes renderedChildren.renders
        layoutClosed (.nil next)
    have next_le := layoutClosed.length_le
    have inside_ge := renderedChildren.renders.suffix.length_le
    rw [List.length_cons] at inside_ge
    cases start with
    | nil =>
      -- Nothing of the trees has been passed.
      have whole := RendersNodes.cons layoutOpened isName layoutName rendersAttributes
        renderedChildren layoutClosed renderedOthers
      rw [whole.countP_of_before (by simp [split])]
      exact .stay []
    | cons char begun =>
      rcases List.cons.inj split with ⟨rfl, opens⟩
      have tailSuffix : tail <:+ opened := opens ▸ List.suffix_append begun tail
      have insideSuffix := suffix_head layoutOpened layoutName rendersAttributes
      have nextSuffix : next <:+ opened := layoutClosed.suffix.trans
        ((List.suffix_cons ')' closed).trans (renderedChildren.renders.suffix.trans insideSuffix))
      rw [List.countP_cons, List.countP_append]
      by_cases isOpen : closed.length < tail.length
      · have openHere : WrittenNode.IsOpenAt tail ⟨around + 1, opened, closed⟩ :=
          ⟨tailSuffix.length_le, isOpen⟩
        rw [renderedOthers.countP_of_before (by omega), if_pos (decide_eq_true openHere)]
        apply RisesBy.opening
        by_cases inHead : inside.length ≤ tail.length
        · -- The start ends between the opening parenthesis and the children.
          rw [renderedChildren.countP_of_before inHead]
          exact .stay begun
        · -- The start ends between the children or behind them.
          rcases exists_left insideSuffix tailSuffix (not_le.mp inHead) with ⟨left, nonempty, rfl⟩
          rcases passes_head nonempty layoutOpened isName layoutName rendersAttributes with
            ⟨start, same, passes⟩
          have equal : begun = start := List.append_cancel_right (opens.symm.trans same)
          subst equal
          exact .behind passes (inductionChildren rfl (by rw [List.length_cons]; omega))
      · have closedHere : ¬ WrittenNode.IsOpenAt tail ⟨around + 1, opened, closed⟩ :=
          fun openHere => isOpen openHere.2
        have noneInner : inner.countP (·.IsOpenAt tail) = 0 :=
          renderedChildren.countP_of_behind (by rw [List.length_cons]; omega)
        rw [noneInner, if_neg (by simpa using closedHere), Nat.zero_add, Nat.add_zero]
        by_cases inLayout : next.length ≤ tail.length
        · -- The start ends in the layout behind the closing parenthesis.
          rw [renderedOthers.countP_of_before inLayout]
          exact .stay _
        · rcases exists_left nextSuffix tailSuffix (not_le.mp inLayout) with ⟨left, nonempty, rfl⟩
          rcases across.passes nonempty with ⟨start, same, passes⟩
          have equal : '(' :: begun = start := List.append_cancel_right (split.symm.trans same)
          subst equal
          exact .behind passes (inductionOthers rfl within)

theorem HasNodes.risesBy {forest : List Written} {start tail : List Char}
    {nodes : List WrittenNode} (listed : HasNodes forest (start ++ tail) nodes) :
    RisesBy start (nodes.countP (·.IsOpenAt tail)) := by
  rcases listed with ⟨body, layout, listed⟩
  by_cases inLayout : body.length ≤ tail.length
  · rw [listed.countP_of_before inLayout]
    exact .stay start
  · rcases exists_left layout.suffix (List.suffix_append start tail) (not_le.mp inLayout) with
      ⟨left, nonempty, rfl⟩
    rcases layout.passes nonempty with ⟨begun, same, passes⟩
    have equal : start = begun := List.append_cancel_right same
    subst equal
    exact .behind passes (listed.risesBy rfl (Nat.zero_le _))

end ShadowLint.Dump
