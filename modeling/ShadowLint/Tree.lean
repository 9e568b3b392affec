import ShadowLint.Kind

/-!
Syntax trees and positions in them. A `Tree` is a labelled node with its ordered
children; a `Site` is a node together with everything that encloses it, so that
questions about ancestors need no links between nodes. `Tree.sites` lists the
sites of a tree from the root down, children in order.
-/

namespace ShadowLint

/-- What a node carries apart from its children. Lines count from one, columns
from zero; a node without a known place is on line zero. -/
structure Label where
  kind : Kind
  text : String
  line : Int
  column : Int
  deriving DecidableEq, Repr, Inhabited

def Label.make (kind : Kind) (text : String) (line column : Int) : Label :=
  { kind, text := if text.isEmpty then kind.defaultText else text, line, column }

inductive Tree where
  | node (label : Label) (children : List Tree)
  deriving Repr, Inhabited

namespace Tree

def label : Tree → Label
  | node label _ => label

def children : Tree → List Tree
  | node _ children => children

def kind (tree : Tree) : Kind := tree.label.kind

def text (tree : Tree) : String := tree.label.text

@[simp] theorem label_node (label : Label) (children : List Tree) :
    (node label children).label = label := rfl

@[simp] theorem children_node (label : Label) (children : List Tree) :
    (node label children).children = children := rfl

/-! ## Equality -/

mutual

def decEq : (left right : Tree) → Decidable (left = right)
  | node label children, node other others =>
    match (inferInstance : Decidable (label = other)), decEqAll children others with
    | isTrue sameLabel, isTrue sameChildren => isTrue (by rw [sameLabel, sameChildren])
    | isFalse different, _ => isFalse fun same => different (node.inj same).1
    | _, isFalse different => isFalse fun same => different (node.inj same).2

def decEqAll : (left right : List Tree) → Decidable (left = right)
  | [], [] => isTrue rfl
  | [], _ :: _ => isFalse nofun
  | _ :: _, [] => isFalse nofun
  | tree :: rest, other :: others =>
    match tree.decEq other, decEqAll rest others with
    | isTrue sameTree, isTrue sameRest => isTrue (by rw [sameTree, sameRest])
    | isFalse different, _ => isFalse fun same => different (List.cons.inj same).1
    | _, isFalse different => isFalse fun same => different (List.cons.inj same).2

end

instance : DecidableEq Tree := decEq

/-! ## Size -/

mutual

def size : Tree → Nat
  | node _ children => 1 + totalSize children

def totalSize : List Tree → Nat
  | [] => 0
  | tree :: rest => tree.size + totalSize rest

end

@[simp] theorem totalSize_nil : totalSize [] = 0 := by rw [totalSize]

@[simp] theorem totalSize_cons (tree : Tree) (rest : List Tree) :
    totalSize (tree :: rest) = tree.size + totalSize rest := by rw [totalSize]

@[simp] theorem totalSize_append (left right : List Tree) :
    totalSize (left ++ right) = totalSize left + totalSize right := by
  induction left with
  | nil => simp
  | cons tree rest induction => simp [induction, Nat.add_assoc]

@[simp] theorem totalSize_reverse (trees : List Tree) :
    totalSize trees.reverse = totalSize trees := by
  induction trees with
  | nil => rfl
  | cons tree rest induction => simp [induction, Nat.add_comm]

theorem size_eq (tree : Tree) : tree.size = 1 + totalSize tree.children := by
  cases tree
  rw [size, children_node]

theorem size_lt_of_mem {tree child : Tree} (member : child ∈ tree.children) :
    child.size < tree.size := by
  obtain ⟨before, after, split⟩ := List.append_of_mem member
  rw [size_eq tree, split, totalSize_append, totalSize_cons]
  omega

theorem induction_children {Holds : Tree → Prop}
    (step : ∀ tree, (∀ child ∈ tree.children, Holds child) → Holds tree) (tree : Tree) :
    Holds tree :=
  step tree fun child _ => induction_children step child
termination_by tree.size
decreasing_by exact size_lt_of_mem ‹_›

/-! ## Children by kind -/

def firstOf? (tree : Tree) (kind : Kind) : Option Tree :=
  tree.children.find? (·.kind == kind)

def countOf (tree : Tree) (kind : Kind) : Nat :=
  tree.children.countP (·.kind == kind)

/-! ## Search below a node -/

/-- Does one of the pending trees hold a node of the given kind? The trees still
to be looked at wait on a stack; the last child of a node is looked at first. -/
def anyHolds (kind : Kind) : List Tree → Bool
  | [] => false
  | tree :: pending =>
    if tree.kind = kind then true
    else anyHolds kind (tree.children.reverse ++ pending)
termination_by pending => totalSize pending
decreasing_by
  have := size_eq tree
  simp only [totalSize_append, totalSize_reverse, totalSize_cons]
  omega

def branchContains (tree : Tree) (kind : Kind) : Bool := anyHolds kind [tree]

def isDeclaredStatic (tree : Tree) : Bool :=
  match tree.firstOf? .modifiers with
  | none => false
  | some modifiers => modifiers.branchContains .literalStatic

end Tree

/-! ## Sites -/

/-- A node and the nodes that enclose it, innermost first. -/
structure Site where
  node : Tree
  ancestors : List Tree
  deriving Repr, Inhabited

namespace Site

def root (tree : Tree) : Site := ⟨tree, []⟩

def label (site : Site) : Label := site.node.label

def kind (site : Site) : Kind := site.node.kind

def children (site : Site) : List Site :=
  site.node.children.map fun child => ⟨child, site.node :: site.ancestors⟩

def parent? (site : Site) : Option Tree := site.ancestors.head?

def grandparent? (site : Site) : Option Tree := site.ancestors.tail.head?

end Site

namespace Tree

mutual

/-- The sites at and below a node with the given ancestors, in preorder. -/
def sitesUnder (ancestors : List Tree) : Tree → List Site
  | node label children =>
    ⟨node label children, ancestors⟩ :: sitesUnderAll (node label children :: ancestors) children

def sitesUnderAll (ancestors : List Tree) : List Tree → List Site
  | [] => []
  | tree :: rest => tree.sitesUnder ancestors ++ sitesUnderAll ancestors rest

end

def sites (tree : Tree) : List Site := tree.sitesUnder []

theorem sitesUnderAll_eq (ancestors trees : List Tree) :
    sitesUnderAll ancestors trees = trees.flatMap (·.sitesUnder ancestors) := by
  induction trees with
  | nil => rfl
  | cons tree rest induction => rw [sitesUnderAll, induction, List.flatMap_cons]

theorem sitesUnder_eq (ancestors : List Tree) (tree : Tree) :
    tree.sitesUnder ancestors = ⟨tree, ancestors⟩ ::
      tree.children.flatMap (·.sitesUnder (tree :: ancestors)) := by
  cases tree with
  | node label children => rw [sitesUnder, sitesUnderAll_eq, children_node]

end Tree

end ShadowLint
