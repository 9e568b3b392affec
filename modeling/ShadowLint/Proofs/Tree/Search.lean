import Mathlib.Logic.Relation
import ShadowLint.Tree

/-!
Nodes and kinds below a node. The search that keeps the trees still to be looked at on a
stack finds a kind exactly if recursion finds it (`Tree.branchContains_iff`), so
that what is asked of the nodes below can be said without the search.
-/

namespace ShadowLint

namespace Tree

inductive Holds (kind : Kind) : Tree → Prop
  | atRoot {tree : Tree} : tree.kind = kind → Holds kind tree
  | inChild {tree child : Tree} : child ∈ tree.children → Holds kind child → Holds kind tree

theorem holds_iff {kind : Kind} {tree : Tree} :
    tree.Holds kind ↔ tree.kind = kind ∨ ∃ child ∈ tree.children, child.Holds kind := by
  constructor
  · intro holds
    cases holds with
    | atRoot equal => exact .inl equal
    | inChild member holds => exact .inr ⟨_, member, holds⟩
  · rintro (equal | ⟨child, member, holds⟩)
    · exact .atRoot equal
    · exact .inChild member holds

/-- The node is the root of the tree or stands below it, at any depth. -/
def Has (tree node : Tree) : Prop :=
  Relation.ReflTransGen (fun parent child => child ∈ parent.children) tree node

theorem Has.of_child {tree child node : Tree} (member : child ∈ tree.children)
    (inside : child.Has node) : tree.Has node :=
  .head member inside

theorem has_iff {tree node : Tree} :
    tree.Has node ↔ node = tree ∨ ∃ child ∈ tree.children, child.Has node :=
  Relation.ReflTransGen.cases_head_iff.trans (or_congr_left eq_comm)

theorem has_of_mem_sitesUnder {tree : Tree} {ancestors : List Tree} {site : Site}
    (inside : site ∈ tree.sitesUnder ancestors) : tree.Has site.node := by
  induction tree using induction_children generalizing ancestors with
  | step tree induction =>
    rw [sitesUnder_eq] at inside
    rcases List.mem_cons.mp inside with rfl | below
    · exact .refl
    · rcases List.mem_flatMap.mp below with ⟨child, member, inChild⟩
      exact .of_child member (induction child member inChild)

theorem holds_iff_has {kind : Kind} {tree : Tree} :
    tree.Holds kind ↔ ∃ node, tree.Has node ∧ node.kind = kind := by
  constructor
  · intro holds
    induction holds with
    | @atRoot tree equal => exact ⟨tree, .refl, equal⟩
    | inChild member _ induction =>
      rcases induction with ⟨node, inside, equal⟩
      exact ⟨node, .of_child member inside, equal⟩
  · rintro ⟨node, inside, equal⟩
    induction inside using Relation.ReflTransGen.head_induction_on with
    | refl => exact .atRoot equal
    | head member _ induction => exact .inChild member induction

/-- What the search finds does not depend on the order in which the pending trees
are looked at: only on what they hold. -/
theorem anyHolds_iff (kind : Kind) (pending : List Tree) :
    anyHolds kind pending = true ↔ ∃ tree ∈ pending, tree.Holds kind := by
  induction pending using anyHolds.induct kind with
  | case1 => simp [anyHolds]
  | case2 tree pending equal =>
    rw [anyHolds, if_pos equal]
    simp [Holds.atRoot equal]
  | case3 tree pending different induction =>
    have atTree : tree.Holds kind ↔ ∃ child ∈ tree.children, child.Holds kind := by
      rw [holds_iff, or_iff_right different]
    rw [anyHolds, if_neg different, induction]
    simp only [List.mem_append, List.mem_reverse, List.mem_cons, or_and_right, exists_or,
      exists_eq_left, atTree]

theorem branchContains_iff {tree : Tree} {kind : Kind} :
    tree.branchContains kind = true ↔ tree.Holds kind := by
  simp [branchContains, anyHolds_iff]

instance (tree : Tree) (kind : Kind) : Decidable (tree.Holds kind) :=
  decidable_of_iff _ branchContains_iff

/-- The node carries the static modifier: its first modifiers hold it somewhere. -/
def IsStatic (tree : Tree) : Prop :=
  ∃ modifiers ∈ tree.firstOf? .modifiers, modifiers.Holds .literalStatic

theorem isDeclaredStatic_iff {tree : Tree} :
    tree.isDeclaredStatic = true ↔ tree.IsStatic := by
  unfold isDeclaredStatic IsStatic
  cases tree.firstOf? .modifiers with
  | none => simp
  | some modifiers => simp [branchContains_iff]

instance (tree : Tree) : Decidable tree.IsStatic :=
  decidable_of_iff _ isDeclaredStatic_iff

end Tree

end ShadowLint
