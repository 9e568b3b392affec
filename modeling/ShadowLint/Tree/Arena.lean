import ShadowLint.Tree.Context

/-!
Nodes that are made one by one and linked afterwards. A node knows its parent and
its children by number; adopting a child sets both links, while a node may also
be made under a parent that does not list it. `Arena.treeAt` reads off the tree
below a node.
-/

namespace ShadowLint

structure LinkedNode where
  label : Label
  parent : Option Nat
  children : Array Nat
  deriving DecidableEq, Repr, Inhabited

structure Arena where
  nodes : Array LinkedNode
  deriving DecidableEq, Repr, Inhabited

namespace Arena

def empty : Arena := ⟨#[]⟩

def size (arena : Arena) : Nat := arena.nodes.size

/-- Makes a node and answers its number. A parent given here does not list it. -/
def make (arena : Arena) (label : Label) (parent : Option Nat) : Arena × Nat :=
  (⟨arena.nodes.push ⟨label, parent, #[]⟩⟩, arena.size)

/-- Makes `child` the last child of `parent`; it is not taken from where it was. -/
def adopt (arena : Arena) (parent child : Nat) : Arena :=
  let linked := arena.nodes.modify child fun node => { node with parent := some parent }
  ⟨linked.modify parent fun node => { node with children := node.children.push child }⟩

def label (arena : Arena) (number : Nat) : Label :=
  (arena.nodes[number]?.map LinkedNode.label).getD default

def kind (arena : Arena) (number : Nat) : Kind := (arena.label number).kind

def parent? (arena : Arena) (number : Nat) : Option Nat :=
  arena.nodes[number]?.bind LinkedNode.parent

def children (arena : Arena) (number : Nat) : List Nat :=
  (arena.nodes[number]?.map fun node => node.children.toList).getD []

/-! ## What making and adopting change -/

section steps

variable (arena : Arena) (number parent child : Nat) (label : Label)

theorem parent?_eq_none_of_size_le {arena : Arena} {number : Nat} (beyond : arena.size ≤ number) :
    arena.parent? number = none := by
  rw [parent?, Array.getElem?_eq_none beyond]
  rfl

theorem children_eq_nil_of_size_le {arena : Arena} {number : Nat} (beyond : arena.size ≤ number) :
    arena.children number = [] := by
  rw [children, Array.getElem?_eq_none beyond]
  rfl

theorem lt_size_of_mem_children {arena : Arena} {parent child : Nat}
    (member : child ∈ arena.children parent) : parent < arena.size := by
  apply Nat.lt_of_not_le
  intro beyond
  rw [children_eq_nil_of_size_le beyond] at member
  cases member

@[simp] theorem size_make (parent : Option Nat) :
    (arena.make label parent).1.size = arena.size + 1 :=
  Array.size_push _

@[simp] theorem size_adopt : (arena.adopt parent child).size = arena.size := by
  simp [adopt, size]

theorem getElem?_make (parent : Option Nat) :
    (arena.make label parent).1.nodes[number]? =
      if number = arena.size then some ⟨label, parent, #[]⟩ else arena.nodes[number]? :=
  Array.getElem?_push

theorem label_make :
    (arena.make label none).1.label number =
      if number = arena.size then label else arena.label number := by
  simp only [Arena.label, getElem?_make]
  split <;> rfl

@[simp] theorem parent?_make : (arena.make label none).1.parent? number = arena.parent? number := by
  rw [parent?, getElem?_make]
  split
  · rename_i newest
    exact (parent?_eq_none_of_size_le (Nat.le_of_eq newest.symm)).symm
  · rfl

@[simp] theorem children_make :
    (arena.make label none).1.children number = arena.children number := by
  rw [children, getElem?_make]
  split
  · rename_i newest
    exact (children_eq_nil_of_size_le (Nat.le_of_eq newest.symm)).symm
  · rfl

theorem getElem?_adopt :
    (arena.adopt parent child).nodes[number]? =
      arena.nodes[number]?.map fun node =>
        { node with
          parent := if number = child then some parent else node.parent
          children := if number = parent then node.children.push child else node.children } := by
  simp only [adopt, Array.getElem?_modify]
  by_cases isParent : parent = number <;> by_cases isChild : child = number <;>
    simp [isParent, isChild, Ne.symm, Function.comp_def]

@[simp] theorem label_adopt :
    (arena.adopt parent child).label number = arena.label number := by
  rw [Arena.label, getElem?_adopt, Option.map_map]
  rfl

theorem parent?_adopt {arena : Arena} {child : Nat} (isNode : child < arena.size) :
    (arena.adopt parent child).parent? number =
      if number = child then some parent else arena.parent? number := by
  rw [parent?, getElem?_adopt, parent?]
  by_cases isChild : number = child
  · subst isChild
    rw [Array.getElem?_eq_getElem isNode]
    simp
  · rw [if_neg isChild, Option.bind_map]
    simp only [isChild, if_false]
    rfl

theorem children_adopt {arena : Arena} {parent : Nat} (isNode : parent < arena.size) :
    (arena.adopt parent child).children number =
      if number = parent then arena.children number ++ [child] else arena.children number := by
  rw [children, getElem?_adopt, children]
  by_cases isParent : number = parent
  · subst isParent
    rw [Array.getElem?_eq_getElem isNode]
    simp
  · simp [isParent, Function.comp_def]

end steps

/-! ## Moving along the links -/

def firstChild? (arena : Arena) (number : Nat) : Option Nat := (arena.children number).head?

def after? (number : Nat) : List Nat → Option Nat
  | [] => none
  | other :: rest => if other = number then rest.head? else after? number rest

/-- The child of the parent that comes next, unless the parent lists none. -/
def nextSibling? (arena : Arena) (number : Nat) : Option Nat :=
  (arena.parent? number).bind fun parent => after? number (arena.children parent)

def ancestorsFrom (arena : Arena) : (fuel : Nat) → (number : Nat) → List Nat
  | 0, _ => []
  | fuel + 1, number =>
    match arena.parent? number with
    | none => []
    | some parent => parent :: ancestorsFrom arena fuel parent

/-- The enclosing nodes, innermost first. Where the links do not go round in a
circle there are fewer of them than nodes. -/
def ancestors (arena : Arena) (number : Nat) : List Nat :=
  ancestorsFrom arena arena.size number

def countOf (arena : Arena) (number : Nat) (kind : Kind) : Nat :=
  (arena.children number).countP (arena.kind · == kind)

def firstOf? (arena : Arena) (number : Nat) (kind : Kind) : Option Nat :=
  (arena.children number).find? (arena.kind · == kind)

def reachedWithin (arena : Arena) : (steps : Nat) → (seen newest : List Nat) → List Nat
  | 0, seen, _ => seen
  | steps + 1, seen, newest =>
    let found := (newest.flatMap arena.children).eraseDups.filter fun number =>
      !seen.contains number
    if found.isEmpty then seen else reachedWithin arena steps (seen ++ found) found

def branchContains (arena : Arena) (number : Nat) (kind : Kind) : Bool :=
  (reachedWithin arena arena.size [number] [number]).any (arena.kind · == kind)

def isDeclaredStatic (arena : Arena) (number : Nat) : Bool :=
  match arena.firstOf? number .modifiers with
  | none => false
  | some modifiers => arena.branchContains modifiers .literalStatic

/-! ## What surrounds a node -/

def inInterface (arena : Arena) (number : Nat) : Bool :=
  Context.inInterface arena.kind (arena.ancestors number)

def isLocal (arena : Arena) (number : Nat) : Bool :=
  Context.isLocal (arena.kind number) ((arena.parent? number).map arena.kind)

def inStatic (arena : Arena) (number : Nat) : Bool :=
  Context.inStatic arena.kind arena.isDeclaredStatic (arena.ancestors number)

/-! ## Arenas and trees -/

def treeFrom (arena : Arena) : (fuel : Nat) → (number : Nat) → Tree
  | 0, number => .node (arena.label number) []
  | fuel + 1, number =>
    .node (arena.label number) ((arena.children number).map (treeFrom arena fuel))

/-- The tree below a node. Where the links do not go round in a circle it is not
deeper than there are nodes. -/
def treeAt (arena : Arena) (number : Nat) : Tree := treeFrom arena arena.size number

mutual

def plant (arena : Arena) : Tree → Arena × Nat
  | .node label children =>
    let (arena, numbers) := plantAll arena children
    let (arena, root) := arena.make label none
    (numbers.foldl (fun arena child => arena.adopt root child) arena, root)

def plantAll (arena : Arena) : List Tree → Arena × List Nat
  | [] => (arena, [])
  | tree :: rest =>
    let (arena, root) := plant arena tree
    let (arena, roots) := plantAll arena rest
    (arena, root :: roots)

end

structure Row where
  label : Label
  parent : Option Nat
  deriving DecidableEq, Repr

def ofRows (rows : List Row) : Arena :=
  rows.foldl (fun arena row =>
    let (arena, number) := arena.make row.label none
    match row.parent with
    | none => arena
    | some parent => arena.adopt parent number) empty

end Arena

end ShadowLint
