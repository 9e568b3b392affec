import ShadowLint.Proofs.Check.Rule
import ShadowLint.Proofs.Related

/-!
Trees in which the members of types stand in another order. Two trees are alike in this
sense if they differ in the order of the children of bodies only (`Tree.Reordered`). What
is looked for among the children of any other node is then found in both or in neither
(`Tree.Reordered.firstOf?`), and a class declares the same fields whatever their order
(`Tree.Reordered.declares_iff`).
-/

namespace ShadowLint

open List (Forall₂)

namespace Tree

/-- The trees differ at most in the order in which bodies list their members. -/
inductive Reordered : Tree → Tree → Prop
  | node {label : Label} {children others : List Tree} :
      Forall₂ Reordered children others → Reordered (.node label children) (.node label others)
  | body {label : Label} {children arranged others : List Tree} : label.kind = .objBlock →
      Forall₂ Reordered children arranged → arranged.Perm others →
      Reordered (.node label children) (.node label others)

namespace Reordered

theorem refl (tree : Tree) : tree.Reordered tree := by
  induction tree using induction_children with
  | step tree induction =>
    cases tree with
    | node label children => exact .node (List.forall₂_same.mpr induction)

variable {tree other : Tree}

theorem label_eq (reordered : tree.Reordered other) : tree.label = other.label := by
  cases reordered <;> rfl

theorem kind_eq (reordered : tree.Reordered other) : tree.kind = other.kind :=
  congrArg Label.kind reordered.label_eq

theorem text_eq (reordered : tree.Reordered other) : tree.text = other.text :=
  congrArg Label.text reordered.label_eq

theorem matched (reordered : tree.Reordered other) :
    Matched Reordered tree.children other.children := by
  cases reordered with
  | node each => exact ⟨_, each, .refl _⟩
  | body _ each permuted => exact ⟨_, each, permuted⟩

theorem children (reordered : tree.Reordered other) (notBody : tree.kind ≠ .objBlock) :
    Forall₂ Reordered tree.children other.children := by
  cases reordered with
  | node each => exact each
  | body isBody => exact absurd isBody notBody

/-! ## What is found below a node -/

theorem holds_iff (reordered : tree.Reordered other) (kind : Kind) :
    tree.Holds kind ↔ other.Holds kind := by
  induction tree using induction_children generalizing other with
  | step tree induction =>
    have below : (∃ child ∈ tree.children, child.Holds kind) ↔
        ∃ child ∈ other.children, child.Holds kind :=
      (reordered.matched.imp induction).exists_mem_iff fun _ _ same => same
    rw [Tree.holds_iff, Tree.holds_iff, reordered.kind_eq, below]

theorem firstOf? (reordered : tree.Reordered other) (notBody : tree.kind ≠ .objBlock)
    (kind : Kind) : Option.Rel Reordered (tree.firstOf? kind) (other.firstOf? kind) := by
  refine find?_of_forall₂ ?_ (reordered.children notBody)
  intro child match_ alike
  rw [alike.kind_eq]

theorem firstOf?_eq_none_iff (reordered : tree.Reordered other) (notBody : tree.kind ≠ .objBlock)
    (kind : Kind) : tree.firstOf? kind = none ↔ other.firstOf? kind = none := by
  rcases rel_cases (reordered.firstOf? notBody kind)
    with ⟨none, noneToo⟩ | ⟨_, _, found, foundToo, -⟩
  · simp [none, noneToo]
  · simp [found, foundToo]

theorem countOf_eq (reordered : tree.Reordered other) (kind : Kind) :
    tree.countOf kind = other.countOf kind := by
  have kinds : (tree.children.map Tree.kind).Perm (other.children.map Tree.kind) :=
    reordered.matched.map_perm fun _ _ alike => alike.kind_eq
  have counted := kinds.countP_eq (· == kind)
  rwa [List.countP_map, List.countP_map] at counted

theorem isStatic_iff (reordered : tree.Reordered other) (notBody : tree.kind ≠ .objBlock) :
    tree.IsStatic ↔ other.IsStatic :=
  exists_mem_congr (reordered.firstOf? notBody .modifiers) fun _ _ alike => alike.holds_iff _

theorem declaredName?_eq (reordered : tree.Reordered other) (notBody : tree.kind ≠ .objBlock) :
    tree.declaredName? = other.declaredName? := by
  rw [declaredName?, declaredName?]
  rcases rel_cases (reordered.firstOf? notBody .ident) with
    ⟨none, noneToo⟩ | ⟨_, _, found, foundToo, alike⟩
  · rw [none, noneToo]
  · rw [found, foundToo, Option.map_some, Option.map_some, alike.text_eq]

/-! ## Members -/

theorem matched_members (reordered : tree.Reordered other) (notBody : tree.kind ≠ .objBlock) :
    Matched Reordered tree.members other.members := by
  rw [members, members]
  rcases rel_cases (reordered.firstOf? notBody .objBlock) with
    ⟨none, noneToo⟩ | ⟨_, _, found, foundToo, alike⟩
  · rw [none, noneToo]
    exact ⟨[], .nil, .refl _⟩
  · rw [found, foundToo]
    exact alike.matched

theorem isNamelessField_iff (reordered : tree.Reordered other) :
    tree.IsNamelessField ↔ other.IsNamelessField := by
  rw [IsNamelessField, IsNamelessField, ← reordered.kind_eq]
  refine and_congr_right fun isField => ?_
  exact reordered.firstOf?_eq_none_iff (by simp [isField]) .ident

theorem declares_iff (reordered : tree.Reordered other) (notBody : tree.kind ≠ .objBlock)
    (isStatic : Bool) (name : String) :
    tree.Declares isStatic name ↔ other.Declares isStatic name := by
  refine (reordered.matched_members notBody).exists_mem_iff fun member match_ alike => ?_
  rw [← alike.kind_eq]
  refine and_congr_right fun isField => ?_
  have notBodyToo : member.kind ≠ .objBlock := by simp [isField]
  rw [alike.declaredName?_eq notBodyToo, alike.isStatic_iff notBodyToo]

end Reordered

end Tree

end ShadowLint
