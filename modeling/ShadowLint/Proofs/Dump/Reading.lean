import ShadowLint.Proofs.Dump.Lexemes

/-!
Reading attributes and trees, freed of the fuel that the readers run on: any fuel
that is as long as the input leads to the same result. What is left are two
equations, one for a reader of attributes (`attributesAt_eq`) and one for a reader
of trees (`treesAt_eq`), each in terms of the reader of a single one.
-/

namespace ShadowLint.Dump

/-! ## Attributes -/

theorem readAttributes_done (fuel : Nat) (done : List Attribute) (input : List Char) :
    readAttributes fuel done input =
      (done.reverse ++ (readAttributes fuel [] input).1, (readAttributes fuel [] input).2) := by
  induction fuel generalizing done input with
  | zero => simp [readAttributes]
  | succ fuel induction =>
    rw [readAttributes, readAttributes]
    cases attribute? input with
    | none => simp
    | some found =>
      rcases found with ⟨single, rest⟩
      dsimp only
      rw [induction (single :: done), induction [single]]
      simp

theorem length_readAttributes (fuel : Nat) (input : List Char) :
    (readAttributes fuel [] input).2.length ≤ input.length := by
  induction fuel generalizing input with
  | zero => exact le_rfl
  | succ fuel induction =>
    rw [readAttributes]
    cases found : attribute? input with
    | none => exact le_rfl
    | some read =>
      rcases read with ⟨single, rest⟩
      have shorter := (rendersAttribute_of_attribute? found).length_lt
      have skipped := length_skipLayout rest
      have others := induction (skipLayout rest)
      dsimp only
      rw [readAttributes_done]
      dsimp only
      omega

theorem readAttributes_fuel {fuel other : Nat} {input : List Char} (enough : input.length ≤ fuel)
    (enoughToo : input.length ≤ other) :
    readAttributes fuel [] input = readAttributes other [] input := by
  induction fuel generalizing other input with
  | zero =>
    have empty : input = [] := List.eq_nil_of_length_eq_zero (Nat.le_zero.mp enough)
    subst empty
    cases other <;> rfl
  | succ fuel induction =>
    cases other with
    | zero =>
      have empty : input = [] := List.eq_nil_of_length_eq_zero (Nat.le_zero.mp enoughToo)
      subst empty
      rfl
    | succ other =>
      rw [readAttributes, readAttributes]
      cases found : attribute? input with
      | none => rfl
      | some read =>
        rcases read with ⟨single, rest⟩
        have shorter := (rendersAttribute_of_attribute? found).length_lt
        have skipped := length_skipLayout rest
        have same : readAttributes fuel [] (skipLayout rest) =
            readAttributes other [] (skipLayout rest) :=
          induction (by omega) (by omega)
        dsimp only
        rw [readAttributes_done fuel, readAttributes_done other, same]

def attributesAt (input : List Char) : List Attribute × List Char :=
  readAttributes input.length [] input

theorem readAttributes_eq {fuel : Nat} {input : List Char} (enough : input.length ≤ fuel) :
    readAttributes fuel [] input = attributesAt input :=
  readAttributes_fuel enough le_rfl

theorem length_attributesAt (input : List Char) :
    (attributesAt input).2.length ≤ input.length :=
  length_readAttributes _ _

theorem attributesAt_eq (input : List Char) :
    attributesAt input =
      match attribute? input with
      | none => ([], input)
      | some (single, rest) =>
        (single :: (attributesAt (skipLayout rest)).1, (attributesAt (skipLayout rest)).2) := by
  have longer := @readAttributes_eq (input.length + 1) input (by omega)
  rw [← longer, readAttributes]
  cases found : attribute? input with
  | none => rfl
  | some read =>
    rcases read with ⟨single, rest⟩
    have shorter := (rendersAttribute_of_attribute? found).length_lt
    have skipped := length_skipLayout rest
    dsimp only
    rw [readAttributes_done, readAttributes_eq (by omega)]
    rfl

/-! ## Trees -/

theorem readTrees_other {char : Char} (other : char ≠ '(') (fuel : Nat) (done : List Written)
    (rest : List Char) : readTrees fuel done (char :: rest) = (done.reverse, char :: rest) := by
  cases fuel with
  | zero => rfl
  | succ fuel =>
    rw [readTrees]
    intro _ equal
    exact other (List.cons.inj equal).1

theorem readTrees_nil (fuel : Nat) (done : List Written) :
    readTrees fuel done [] = (done.reverse, []) := by
  cases fuel <;> rfl

/-- The tree that starts behind an opening parenthesis, and the input after the layout
behind it, given readers for the attributes and for the children. -/
def nodeBy (attributesOf : List Char → List Attribute × List Char)
    (childrenOf : List Char → List Written × List Char) (opened : List Char) :
    Option (Written × List Char) :=
  match name? (skipLayout opened) with
  | none => none
  | some (name, afterName) =>
    match childrenOf (attributesOf (skipLayout afterName)).2 with
    | (children, ')' :: closed) =>
      some (.node name (skipLayout opened) (attributesOf (skipLayout afterName)).1 children,
        skipLayout closed)
    | _ => none

theorem readTrees_opening (fuel : Nat) (done : List Written) (opened : List Char) :
    readTrees (fuel + 1) done ('(' :: opened) =
      match nodeBy (readAttributes fuel []) (readTrees fuel []) opened with
      | none => (done.reverse, '(' :: opened)
      | some (tree, rest) => readTrees fuel (tree :: done) rest := by
  rw [readTrees, nodeBy]
  cases name? (skipLayout opened) with
  | none => rfl
  | some found =>
    rcases found with ⟨name, afterName⟩
    dsimp only
    cases childrenRead : readTrees fuel [] (readAttributes fuel [] (skipLayout afterName)).2 with
    | mk children closing =>
      cases closing with
      | nil => simp
      | cons char after =>
        by_cases isClosing : char = ')'
        · subst isClosing
          simp
        · simp [isClosing]

section nodeBy

variable {attributesOf : List Char → List Attribute × List Char}
  {childrenOf : List Char → List Written × List Char} {opened : List Char}

theorem nodeBy_eq_some {tree : Written} {rest : List Char}
    (found : nodeBy attributesOf childrenOf opened = some (tree, rest)) :
    ∃ name afterName children closed,
      name? (skipLayout opened) = some (name, afterName) ∧
      childrenOf (attributesOf (skipLayout afterName)).2 = (children, ')' :: closed) ∧
      tree = .node name (skipLayout opened) (attributesOf (skipLayout afterName)).1 children ∧
      rest = skipLayout closed := by
  unfold nodeBy at found
  split at found
  · cases found
  · rename_i name afterName named
    split at found
    · rename_i children closed childrenRead
      cases found
      exact ⟨name, afterName, children, closed, named, childrenRead, rfl, rfl⟩
    · cases found

theorem length_after_name {name afterName : List Char}
    (named : name? (skipLayout opened) = some (name, afterName)) :
    (skipLayout afterName).length ≤ opened.length := by
  rcases isName_of_name? named with ⟨split, -⟩
  have skipped := length_skipLayout opened
  have skippedToo := length_skipLayout afterName
  rw [split, List.length_append] at skipped
  omega

theorem length_nodeBy (shortens : ∀ input, (attributesOf input).2.length ≤ input.length)
    (shortensToo : ∀ input, (childrenOf input).2.length ≤ input.length) {tree : Written}
    {rest : List Char} (found : nodeBy attributesOf childrenOf opened = some (tree, rest)) :
    rest.length ≤ opened.length := by
  rcases nodeBy_eq_some found with ⟨name, afterName, children, closed, named, childrenRead, -, rfl⟩
  have afterName_le := length_after_name named
  have attributes_le := shortens (skipLayout afterName)
  have children_le := shortensToo (attributesOf (skipLayout afterName)).2
  have skipped := length_skipLayout closed
  rw [childrenRead, List.length_cons] at children_le
  omega

theorem nodeBy_congr {attributesOfToo : List Char → List Attribute × List Char}
    {childrenOfToo : List Char → List Written × List Char}
    (shortens : ∀ input, (attributesOf input).2.length ≤ input.length)
    (same : ∀ input, input.length ≤ opened.length → attributesOf input = attributesOfToo input)
    (sameToo : ∀ input, input.length ≤ opened.length → childrenOf input = childrenOfToo input) :
    nodeBy attributesOf childrenOf opened = nodeBy attributesOfToo childrenOfToo opened := by
  unfold nodeBy
  cases named : name? (skipLayout opened) with
  | none => rfl
  | some found =>
    rcases found with ⟨name, afterName⟩
    have afterName_le := length_after_name named
    have attributes_le := shortens (skipLayout afterName)
    dsimp only
    rw [sameToo _ (by omega), same _ (by omega)]

end nodeBy

theorem readTrees_done (fuel : Nat) (done : List Written) (input : List Char) :
    readTrees fuel done input =
      (done.reverse ++ (readTrees fuel [] input).1, (readTrees fuel [] input).2) := by
  induction fuel generalizing done input with
  | zero => simp [readTrees]
  | succ fuel induction =>
    cases input with
    | nil => simp [readTrees_nil]
    | cons char opened =>
      by_cases opening : char = '('
      · subst opening
        rw [readTrees_opening, readTrees_opening]
        cases nodeBy (readAttributes fuel []) (readTrees fuel []) opened with
        | none => simp
        | some found =>
          rcases found with ⟨tree, rest⟩
          dsimp only
          rw [induction (tree :: done), induction [tree]]
          simp
      · rw [readTrees_other opening, readTrees_other opening]
        simp

theorem length_readTrees (fuel : Nat) (input : List Char) :
    (readTrees fuel [] input).2.length ≤ input.length := by
  induction fuel generalizing input with
  | zero => exact le_rfl
  | succ fuel induction =>
    cases input with
    | nil => simp [readTrees_nil]
    | cons char opened =>
      by_cases opening : char = '('
      · subst opening
        rw [readTrees_opening]
        cases found : nodeBy (readAttributes fuel []) (readTrees fuel []) opened with
        | none => exact le_rfl
        | some read =>
          rcases read with ⟨tree, rest⟩
          have shorter := length_nodeBy (length_readAttributes fuel) induction found
          have others := induction rest
          dsimp only
          rw [readTrees_done, List.length_cons]
          dsimp only
          omega
      · rw [readTrees_other opening]

theorem readTrees_fuel {fuel other : Nat} {input : List Char} (enough : input.length ≤ fuel)
    (enoughToo : input.length ≤ other) : readTrees fuel [] input = readTrees other [] input := by
  induction fuel generalizing other input with
  | zero =>
    have empty : input = [] := List.eq_nil_of_length_eq_zero (Nat.le_zero.mp enough)
    subst empty
    rw [readTrees_nil, readTrees_nil]
  | succ fuel induction =>
    cases input with
    | nil => rw [readTrees_nil, readTrees_nil]
    | cons char opened =>
      rw [List.length_cons] at enough enoughToo
      by_cases opening : char = '('
      · subst opening
        cases other with
        | zero => omega
        | succ other =>
          have same : nodeBy (readAttributes fuel []) (readTrees fuel []) opened =
              nodeBy (readAttributes other []) (readTrees other []) opened := by
            apply nodeBy_congr (length_readAttributes fuel)
            · intro input bound
              exact readAttributes_fuel (by omega) (by omega)
            · intro input bound
              exact induction (by omega) (by omega)
          rw [readTrees_opening, readTrees_opening, same]
          cases found : nodeBy (readAttributes other []) (readTrees other []) opened with
          | none => rfl
          | some read =>
            rcases read with ⟨tree, rest⟩
            have shorter :=
              length_nodeBy (length_readAttributes other) (length_readTrees other) found
            have sameRest : readTrees fuel [] rest = readTrees other [] rest :=
              induction (by omega) (by omega)
            dsimp only
            rw [readTrees_done fuel, readTrees_done other, sameRest]
      · rw [readTrees_other opening, readTrees_other opening]

/-- The complete trees that the input starts with, and the input after them. -/
def treesAt (input : List Char) : List Written × List Char := readTrees input.length [] input

def nodeAt? (opened : List Char) : Option (Written × List Char) :=
  nodeBy attributesAt treesAt opened

theorem readTrees_eq {fuel : Nat} {input : List Char} (enough : input.length ≤ fuel) :
    readTrees fuel [] input = treesAt input :=
  readTrees_fuel enough le_rfl

theorem length_treesAt (input : List Char) : (treesAt input).2.length ≤ input.length :=
  length_readTrees _ _

theorem length_nodeAt? {opened rest : List Char} {tree : Written}
    (found : nodeAt? opened = some (tree, rest)) : rest.length ≤ opened.length :=
  length_nodeBy length_attributesAt length_treesAt found

@[simp] theorem treesAt_nil : treesAt [] = ([], []) := rfl

theorem treesAt_other {char : Char} (other : char ≠ '(') (rest : List Char) :
    treesAt (char :: rest) = ([], char :: rest) :=
  readTrees_other other _ _ _

theorem treesAt_opening (opened : List Char) :
    treesAt ('(' :: opened) =
      match nodeAt? opened with
      | none => ([], '(' :: opened)
      | some (tree, rest) => (tree :: (treesAt rest).1, (treesAt rest).2) := by
  have same : nodeBy (readAttributes opened.length []) (readTrees opened.length []) opened =
      nodeAt? opened := by
    apply nodeBy_congr (length_readAttributes _)
    · intro input bound
      exact readAttributes_eq bound
    · intro input bound
      exact readTrees_eq bound
  rw [treesAt, List.length_cons, readTrees_opening, same]
  cases found : nodeAt? opened with
  | none => rfl
  | some read =>
    rcases read with ⟨tree, rest⟩
    dsimp only
    rw [readTrees_done, readTrees_eq (length_nodeAt? found)]
    rfl

theorem readForest_eq (text : List Char) : readForest text = treesAt (skipLayout text) :=
  readTrees_eq (length_skipLayout text)

end ShadowLint.Dump
