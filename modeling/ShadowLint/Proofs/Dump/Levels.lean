import ShadowLint.Proofs.Dump.Nodes

/-!
What the count of parentheses announces. For a dump it is the number of its levels,
or it is refused at the first node beyond the limit. For any other text it still
bounds how many nodes can be open at any point that a dump might go through, and
how deep reading goes: reading with no more levels to go down than were counted is
never cut off (`readWithin_eq`).
-/

namespace ShadowLint.Dump

/-! ## The count as a bound -/

theorem deepest_le_of_nestingFrom {fuel deepest most : Nat} {depth : Int} {input : List Char}
    (counted : nestingFrom fuel depth deepest input = .ok most) : deepest ≤ most := by
  fun_induction nestingFrom fuel depth deepest input with
  | case1 => exact (Except.ok.inj counted).le
  | case2 => exact (Except.ok.inj counted).le
  | case6 => cases counted
  | case7 fuel depth deepest rest _ _ _ induction =>
    exact le_trans (le_max_left _ _) (induction counted)
  | case3 | case4 | case5 | case8 | case9 =>
    rename_i induction
    exact induction counted

theorem most_le_of_scans {text : List Char} {deepest : Nat} {most : Int} {point : Point}
    (counted : nesting text = .ok deepest) (scans : Scans ⟨0, text⟩ most point) :
    most ≤ deepest := by
  by_cases fits : most ≤ nestingLimit
  · rcases @nestingFrom_scans _ _ _ scans text.length 0 fits le_rfl le_rfl with
      ⟨left, -, equal⟩
    rw [nesting, equal] at counted
    have reached := deepest_le_of_nestingFrom counted
    omega
  · rcases scans.exists_exceeding (by simp) (not_le.mp fits) with ⟨fewer, bound, rest, way⟩
    rw [nesting_of_exceedsAt ⟨fewer, bound, way⟩] at counted
    cases counted

theorem Scans.last_le {first last : Point} {most : Int} (scans : Scans first most last) :
    last.depth ≤ most := by
  induction scans with
  | here => exact le_rfl
  | step _ _ induction => exact le_trans induction (le_max_right _ _)

theorem RisesBy.le_nesting {start rest : List Char} {count deepest : Nat}
    (rises : RisesBy start count) (counted : nesting (start ++ rest) = .ok deepest) :
    count ≤ deepest := by
  rcases rises with ⟨left, ways⟩
  rcases ways rest 0 with ⟨most, way⟩
  have reached : (0 : Int) + count ≤ most := way.last_le
  have bound := most_le_of_scans counted way
  omega

/-! ## Reading within so many levels -/

/-- Reads trees as long as there are complete ones, and gives up where one would have
to go down more levels than are left. -/
def readWithin : (levels fuel : Nat) → List Char → Option (List Written × List Char)
  | _, 0, input => some ([], input)
  | 0, _ + 1, '(' :: _ => none
  | levels + 1, fuel + 1, '(' :: opened =>
    match name? (skipLayout opened) with
    | none => some ([], '(' :: opened)
    | some (name, afterName) =>
      let (attributes, inner) := readAttributes fuel [] (skipLayout afterName)
      match readWithin levels fuel inner with
      | none => none
      | some (children, ')' :: closed) =>
        (readWithin (levels + 1) fuel (skipLayout closed)).map fun (others, rest) =>
          (.node name (skipLayout opened) attributes children :: others, rest)
      | some _ => some ([], '(' :: opened)
  | _, _ + 1, input => some ([], input)

def readForestWithin (levels : Nat) (text : List Char) : Option (List Written × List Char) :=
  readWithin levels text.length (skipLayout text)

example : (readForestWithin 1 "(A) (B (C))".toList).isNone = true := by decide +kernel

theorem readWithin_other {char : Char} (other : char ≠ '(') (levels fuel : Nat)
    (rest : List Char) : readWithin levels fuel (char :: rest) = some ([], char :: rest) := by
  cases fuel with
  | zero => rfl
  | succ fuel =>
    rw [readWithin]
    · intro _ _ equal
      exact other (List.cons.inj equal).1
    · intro _ _ _ equal
      exact other (List.cons.inj equal).1

theorem scans_toChildren {opened name afterName : List Char}
    (named : name? (skipLayout opened) = some (name, afterName)) (depth : Int) :
    Scans ⟨depth, opened⟩ depth ⟨depth, (attributesAt (skipLayout afterName)).2⟩ := by
  have layout := layout_skipLayout opened
  rcases isName_of_name? named with ⟨split, isName⟩
  rw [split] at layout
  exact scans_head layout isName (layout_skipLayout afterName)
    (rendersAttributes_attributesAt _) depth

theorem renders_nodeAt? {opened rest : List Char} {tree : Written}
    (found : nodeAt? opened = some (tree, rest)) : Renders [tree] ('(' :: opened) rest := by
  rcases nodeBy_eq_some found with
    ⟨name, afterName, children, closed, named, childrenRead, rfl, rfl⟩
  have layout := layout_skipLayout opened
  rcases isName_of_name? named with ⟨split, isName⟩
  rw [split] at layout ⊢
  have inner := renders_treesAt (attributesAt (skipLayout afterName)).2
  rw [childrenRead] at inner
  exact .cons layout isName (layout_skipLayout afterName) (rendersAttributes_attributesAt _)
    inner (layout_skipLayout closed) (.nil _)

/-- Where the count rises no further than there are levels, reading is not cut off. -/
theorem readWithin_eq {levels fuel depth : Nat} {input : List Char} (enough : input.length ≤ fuel)
    (bounded : ∀ most point, Scans ⟨depth, input⟩ most point → most ≤ depth + levels) :
    readWithin levels fuel input = some (treesAt input) := by
  induction fuel generalizing levels depth input with
  | zero =>
    rw [List.eq_nil_of_length_eq_zero (Nat.le_zero.mp enough)]
    simp [readWithin]
  | succ fuel induction =>
    cases input with
    | nil => simp [readWithin]
    | cons char opened =>
      by_cases opening : char = '('
      · subst opening
        rw [List.length_cons] at enough
        have opens : (depth : Int) + 1 ≤ depth + levels := le_trans (le_max_right _ _)
          (bounded _ _ (.step .opening (.here ⟨depth + 1, opened⟩)))
        cases levels with
        | zero => simp at opens
        | succ levels =>
          rw [treesAt_opening, readWithin]
          cases named : name? (skipLayout opened) with
          | none => simp [nodeAt?, nodeBy, named]
          | some found =>
            rcases found with ⟨name, afterName⟩
            have afterName_le := length_after_name named
            have inner_le := length_attributesAt (skipLayout afterName)
            -- Behind the opening parenthesis one more is open and one level less is left.
            have inner := @induction levels (depth + 1) (attributesAt (skipLayout afterName)).2
              (by omega) fun most point scans => by
                have way := Scans.step .opening ((scans_toChildren named (depth + 1)).chain scans)
                have fits := le_trans (le_max_right _ _) (bounded _ _ way)
                omega
            dsimp only
            rw [readAttributes_eq (by omega), inner, nodeAt?, nodeBy, named]
            dsimp only
            cases childrenRead : treesAt (attributesAt (skipLayout afterName)).2 with
            | mk children closing =>
              cases closing with
              | nil => rfl
              | cons char closed =>
                by_cases isClosing : char = ')'
                · subst isClosing
                  have node : nodeAt? opened = some (.node name (skipLayout opened)
                      (attributesAt (skipLayout afterName)).1 children, skipLayout closed) := by
                    simp [nodeAt?, nodeBy, named, childrenRead]
                  have rest_le := length_nodeAt? node
                  have others := @induction (levels + 1) depth (skipLayout closed) (by omega)
                    fun most point scans => by
                      have way := ((renders_nodeAt? node).scans depth).trans scans
                      exact le_trans (le_max_right _ _) (bounded _ _ way)
                  simp [others]
                · simp [isClosing]
      · rw [readWithin_other opening, treesAt_other opening]

theorem readForestWithin_eq {text : List Char} {deepest : Nat}
    (counted : nesting text = .ok deepest) :
    readForestWithin deepest text = some (readForest text) := by
  rw [readForest_eq]
  refine @readWithin_eq deepest text.length 0 _ (length_skipLayout text) fun most point scans => ?_
  have bound := most_le_of_scans counted (((layout_skipLayout text).scans 0).chain scans)
  omega

/-! ## What is announced -/

theorem nesting_of_checkNesting {text : List Char} {depth : Nat}
    (counted : checkNesting text = .ok depth) : nesting text = .ok depth := by
  unfold checkNesting at counted
  split at counted
  · rename_i found same
    rw [same, Except.ok.inj counted]
  · cases counted

theorem isForest_iff_exists_nodes (forest : List Written) (text : List Char) :
    IsForest forest text ↔ ∃ nodes, HasNodes forest text nodes := by
  constructor
  · rintro ⟨body, layout, renders⟩
    rcases renders.exists_nodes 0 with ⟨nodes, listed⟩
    exact ⟨nodes, body, layout, listed⟩
  · rintro ⟨nodes, body, layout, listed⟩
    exact ⟨body, layout, listed.renders⟩

theorem HasNodes.checkNesting_of_deep {forest : List Written} {text : List Char}
    {nodes : List WrittenNode} (listed : HasNodes forest text nodes)
    (deep : nestingLimit < levelsOf forest) :
    ∃ node ∈ nodes, ∃ start, node.level = nestingLimit + 1 ∧
      (∀ other ∈ nodes, other.level = node.level → other.opened.length ≤ node.opened.length) ∧
      text = start ++ '(' :: node.opened ∧
      checkNesting text = .error (.tooDeep nestingLimit (placeAfter start)) := by
  rcases listed with ⟨body, layout, rendered⟩
  rcases rendered.exists_at_level (Nat.succ_pos nestingLimit) (by omega) with
    ⟨beyond, inside, isAt⟩
  cases found : nodes.find? (·.level = nestingLimit + 1) with
  | none => exact absurd (decide_eq_true isAt) (List.find?_eq_none.mp found beyond inside)
  | some node =>
    have level : node.level = nestingLimit + 1 := by simpa using List.find?_some found
    rcases List.find?_eq_some_iff_append.mp found with ⟨-, earlier, later, split, others⟩
    rcases HasNodes.exceedsAt ⟨body, layout, rendered⟩ found with ⟨most, fits, scans⟩
    rcases scans.suffix with ⟨start, whole⟩
    have whole : text = start ++ '(' :: node.opened := whole.symm
    refine ⟨node, List.mem_of_find?_eq_some found, start, level, ?_, whole, ?_⟩
    · intro other member sameLevel
      rw [split] at member
      rcases List.mem_append.mp member with before | behind
      · have unequal := others other before
        simp [sameLevel.trans level] at unequal
      · rcases List.mem_cons.mp behind with equal | after
        · rw [equal]
        · have ordered := rendered.in_order
          rw [split] at ordered
          have ordered := (List.pairwise_append.mp ordered).2.1
          exact ((List.pairwise_cons.mp ordered).1 other after).le
    · rw [checkNesting, nesting_of_exceedsAt ⟨most, fits, scans⟩, whole]
      dsimp only
      rw [placeOfRest_append]

/-- The count of a dump is the number of its levels, unless there are more than a
thousand; then it is refused at the first node on the level after that. Whatever a
text is, where a start of it goes on to a dump no more nodes are open at the end of
the start than were counted, and reading the text goes down no more levels. -/
theorem checkNesting_announces :
    (∀ forest text, IsForest forest text ↔ ∃ nodes, HasNodes forest text nodes) ∧
    (∀ forest text nodes, HasNodes forest text nodes →
      (levelsOf forest ≤ 1000 → checkNesting text = .ok (levelsOf forest)) ∧
      (1000 < levelsOf forest → ∃ node ∈ nodes, ∃ start error, node.level = 1001 ∧
        (∀ other ∈ nodes, other.level = 1001 → other.opened.length ≤ node.opened.length) ∧
        text = start ++ '(' :: node.opened ∧ checkNesting text = .error error ∧
        error.code.identifier = "HF-3003" ∧ error.place = placeAfter start)) ∧
    ∀ text depth, checkNesting text = .ok depth →
      (∀ start rest completion forest nodes, text = start ++ rest →
        HasNodes forest (start ++ completion) nodes →
        nodes.countP (·.IsOpenAt completion) ≤ depth) ∧
      readForestWithin depth text = some (readForest text) := by
  refine ⟨isForest_iff_exists_nodes, fun forest text nodes listed => ⟨fun within => ?_,
    fun deep => ?_⟩, fun text depth counted => ⟨?_, ?_⟩⟩
  · have isForest := (isForest_iff_exists_nodes forest text).mpr ⟨nodes, listed⟩
    have fits : (levelsOf forest : Int) ≤ nestingLimit := Int.ofNat_le.mpr within
    exact checkNesting_of_ok (nesting_of_scans isForest.scans fits)
  · rcases listed.checkNesting_of_deep deep with
      ⟨node, member, start, level, first, split, refused⟩
    rw [level] at first
    exact ⟨node, member, start, _, level, first, split, refused, rfl, rfl⟩
  · intro start rest completion forest nodes split listed
    rw [split] at counted
    exact listed.risesBy.le_nesting (nesting_of_checkNesting counted)
  · exact readForestWithin_eq (nesting_of_checkNesting counted)

/-- A quote that is not closed does not hide the parenthesis behind it: three are
counted, and only two nodes are open where the text could have gone on to a dump. -/
theorem unclosedQuote_announces_more : ∃ forest nodes,
    HasNodes forest "(A (B))".toList nodes ∧
      checkNesting "(A (B))".toList = .ok (levelsOf forest) ∧
      checkNesting "(A (B \"(".toList = .ok 3 ∧
      nodes.countP (·.IsOpenAt "))".toList) = 2 ∧
      nodes.countP (·.IsOpenAt "))".toList) ≤ 3 := by
  have nameA : IsName ['A'] [' ', '(', 'B', ')', ')'] :=
    ⟨⟨'A', rfl, rfl⟩, nofun, by rintro _ ⟨⟩; rfl⟩
  have nameB : IsName ['B'] [')', ')'] := ⟨⟨'B', rfl, rfl⟩, nofun, by rintro _ ⟨⟩; rfl⟩
  have nodeB : RendersNodes 1 [.node ['B'] ['B', ')', ')'] [] []] ['(', 'B', ')', ')'] [')']
      [⟨2, ['B', ')', ')'], [')']⟩] :=
    .cons (.done _) nameB (.done _) (.nil _) (.nil 2 _) (.done _) (.nil 1 _)
  have listed : HasNodes [.node ['A'] _ [] [.node ['B'] _ [] []]] "(A (B))".toList
      [⟨1, _, []⟩, ⟨2, _, [')']⟩] :=
    ⟨_, .done _, .cons (.done _) nameA (.blank (by decide) (.done _)) (.nil _) nodeB (.done _)
      (.nil 0 _)⟩
  have counted : checkNesting "(A (B \"(".toList = .ok 3 := by decide +kernel
  have levels := (checkNesting_announces.2.1 _ _ _ listed).1 (by decide +kernel)
  have bound := (checkNesting_announces.2.2 _ 3 counted).1 "(A (B".toList " \"(".toList
    "))".toList _ _ (by decide +kernel) listed
  exact ⟨_, _, listed, levels, counted, by decide +kernel, bound⟩

end ShadowLint.Dump
