import Mathlib.Data.List.Nodup
import Mathlib.Data.List.Perm.Subperm
import Mathlib.Logic.Relation
import ShadowLint.Tree.Arena

/-!
Links between nodes. An arena is linked if its two kinds of links say the same, no node lists a
child twice, and the way up from every node comes to an end. In a linked arena the way up visits
no node twice, so it is found whole (`Arena.IsLinked.leadsUp_ancestors`), the next siblings of a
first child are the children in their order (`Arena.IsLinked.leadsOn_children`), and the tree
below a node is read off without being cut short (`Arena.IsLinked.treeAt_eq`). Making a node
keeps an arena linked, and so does adopting a node without a parent by one that is not below it
(`Arena.IsLinked.adopt`).
-/

namespace ShadowLint.Arena

/-- The node is `top` or stands below it, at any depth. -/
def IsBelow (arena : Arena) (node top : Nat) : Prop :=
  Relation.ReflTransGen (fun upper lower => lower ∈ arena.children upper) top node

/-- The path is the way up from the node: its parent, the parent of that one, and so on, to a
node without a parent. -/
inductive LeadsUp (arena : Arena) : (node : Nat) → (path : List Nat) → Prop
  | root {node : Nat} : arena.parent? node = none → LeadsUp arena node []
  | step {node parent : Nat} {path : List Nat} : arena.parent? node = some parent →
      LeadsUp arena parent path → LeadsUp arena node (parent :: path)

/-- Going on from a node to its next sibling, and so on, passes these nodes and then ends. -/
inductive LeadsOn (arena : Arena) : (first : Option Nat) → (passed : List Nat) → Prop
  | done : LeadsOn arena none []
  | next {node : Nat} {passed : List Nat} : LeadsOn arena (arena.nextSibling? node) passed →
      LeadsOn arena (some node) (node :: passed)

structure IsLinked (arena : Arena) : Prop where
  mem_children_iff : ∀ {parent child : Nat},
    child ∈ arena.children parent ↔ arena.parent? child = some parent
  nodup : ∀ parent, (arena.children parent).Nodup
  exists_way : ∀ node, ∃ path, arena.LeadsUp node path

variable {arena : Arena}

/-! ## The way up -/

namespace LeadsUp

variable {node : Nat} {path : List Nat}

theorem unique (way : arena.LeadsUp node path) {other : List Nat}
    (wayToo : arena.LeadsUp node other) : path = other := by
  induction way generalizing other with
  | root isRoot =>
    cases wayToo with
    | root => rfl
    | step hasParent => cases isRoot.symm.trans hasParent
  | step hasParent _ induction =>
    cases wayToo with
    | root isRoot => cases isRoot.symm.trans hasParent
    | step hasParentToo wayFromParent =>
      cases hasParent.symm.trans hasParentToo
      rw [induction wayFromParent]

theorem exists_shorter (way : arena.LeadsUp node path) {upper : Nat} (member : upper ∈ path) :
    ∃ rest, arena.LeadsUp upper rest ∧ rest.length < path.length := by
  induction way with
  | root => cases member
  | @step node parent path _ fromParent induction =>
    rcases List.mem_cons.mp member with rfl | later
    · exact ⟨path, fromParent, Nat.lt_succ_self _⟩
    · rcases induction later with ⟨rest, fromUpper, shorter⟩
      exact ⟨rest, fromUpper, Nat.lt_succ_of_lt shorter⟩

theorem nodup (way : arena.LeadsUp node path) : (node :: path).Nodup := by
  induction way with
  | root => exact List.nodup_singleton _
  | step hasParent fromParent induction =>
    refine List.nodup_cons.mpr ⟨fun again => ?_, induction⟩
    have way := LeadsUp.step hasParent fromParent
    rcases way.exists_shorter again with ⟨rest, wayToo, shorter⟩
    rw [way.unique wayToo] at shorter
    exact Nat.lt_irrefl _ shorter

theorem ancestorsFrom_eq (way : arena.LeadsUp node path) {fuel : Nat}
    (enough : path.length ≤ fuel) : ancestorsFrom arena fuel node = path := by
  induction way generalizing fuel with
  | root isRoot =>
    cases fuel with
    | zero => rfl
    | succ fuel => rw [ancestorsFrom, isRoot]
  | step hasParent _ induction =>
    obtain ⟨fuel, rfl⟩ : ∃ less, fuel = less + 1 := ⟨fuel - 1, by simp at enough; omega⟩
    rw [ancestorsFrom, hasParent]
    dsimp only
    rw [induction (Nat.le_of_succ_le_succ enough)]

theorem root_unique (way : arena.LeadsUp node path) {first second : Nat}
    (firstOn : first ∈ node :: path) (firstRoot : arena.parent? first = none)
    (secondOn : second ∈ node :: path) (secondRoot : arena.parent? second = none) :
    first = second := by
  induction way with
  | root => rw [List.mem_singleton.mp firstOn, List.mem_singleton.mp secondOn]
  | @step node parent path hasParent _ induction =>
    have further {root : Nat} (member : root ∈ node :: parent :: path)
        (isRoot : arena.parent? root = none) : root ∈ parent :: path := by
      rcases List.mem_cons.mp member with rfl | later
      · cases isRoot.symm.trans hasParent
      · exact later
    exact induction (further firstOn firstRoot) (further secondOn secondRoot)

theorem congr (way : arena.LeadsUp node path) {other : Arena}
    (same : ∀ number ∈ node :: path, other.parent? number = arena.parent? number) :
    other.LeadsUp node path := by
  induction way with
  | root isRoot => exact .root ((same _ List.mem_cons_self).trans isRoot)
  | step hasParent _ induction =>
    exact .step ((same _ List.mem_cons_self).trans hasParent)
      (induction fun number member => same number (List.mem_cons_of_mem _ member))

end LeadsUp

namespace IsLinked

variable (linked : arena.IsLinked) {node parent child : Nat} {path : List Nat}

include linked

theorem lt_size_of_mem {parent child : Nat} (member : child ∈ arena.children parent) :
    child < arena.size := by
  apply Nat.lt_of_not_le
  intro beyond
  cases (parent?_eq_none_of_size_le beyond).symm.trans (linked.mem_children_iff.mp member)

theorem lt_size_of_isBelow {top : Nat} (below : arena.IsBelow node top)
    (isNode : top < arena.size) : node < arena.size := by
  rcases Relation.ReflTransGen.cases_tail below with same | ⟨parent, -, member⟩
  · exact same ▸ isNode
  · exact linked.lt_size_of_mem member

theorem not_mem_children (isRoot : arena.parent? child = none) (parent : Nat) :
    child ∉ arena.children parent := by
  intro listed
  cases isRoot.symm.trans (linked.mem_children_iff.mp listed)

theorem mem_way_iff (way : arena.LeadsUp node path) {upper : Nat} :
    upper ∈ node :: path ↔ arena.IsBelow node upper := by
  rw [IsBelow]
  induction way with
  | root isRoot =>
    rw [Relation.ReflTransGen.cases_tail_iff, List.mem_singleton, eq_comm, iff_self_or]
    rintro ⟨parent, -, member⟩
    cases isRoot.symm.trans (linked.mem_children_iff.mp member)
  | @step node parent path hasParent _ induction =>
    rw [Relation.ReflTransGen.cases_tail_iff, List.mem_cons, eq_comm, induction]
    refine or_congr_right ⟨fun below => ⟨parent, below, linked.mem_children_iff.mpr hasParent⟩, ?_⟩
    rintro ⟨other, below, member⟩
    cases hasParent.symm.trans (linked.mem_children_iff.mp member)
    exact below

theorem length_way_lt (way : arena.LeadsUp node path) (isNode : node < arena.size) :
    path.length < arena.size := by
  have inside : node :: path ⊆ List.range arena.size := by
    intro upper member
    rw [List.mem_range]
    rcases List.mem_cons.mp member with rfl | later
    · exact isNode
    · have below := (linked.mem_way_iff way).mp member
      rcases Relation.ReflTransGen.cases_head below with same | ⟨lower, isChild, -⟩
      · exact same ▸ isNode
      · exact lt_size_of_mem_children isChild
  have fits := (List.subperm_of_subset way.nodup inside).length_le
  rwa [List.length_range, List.length_cons] at fits

theorem ancestors_eq (way : arena.LeadsUp node path) : arena.ancestors node = path := by
  rcases Nat.lt_or_ge node arena.size with isNode | beyond
  · exact way.ancestorsFrom_eq (Nat.le_of_lt (linked.length_way_lt way isNode))
  · have isRoot : arena.LeadsUp node [] := .root (parent?_eq_none_of_size_le beyond)
    rw [way.unique isRoot]
    exact isRoot.ancestorsFrom_eq (Nat.zero_le _)

theorem leadsUp_ancestors (node : Nat) : arena.LeadsUp node (arena.ancestors node) := by
  rcases linked.exists_way node with ⟨path, way⟩
  rwa [linked.ancestors_eq way]

theorem ancestors_of_mem {parent child : Nat} (member : child ∈ arena.children parent) :
    arena.ancestors child = parent :: arena.ancestors parent :=
  linked.ancestors_eq (.step (linked.mem_children_iff.mp member) (linked.leadsUp_ancestors parent))

theorem mem_ancestors_iff {upper : Nat} :
    upper ∈ node :: arena.ancestors node ↔ arena.IsBelow node upper :=
  linked.mem_way_iff (linked.leadsUp_ancestors node)

theorem eq_of_isBelow {first second : Nat} (firstRoot : arena.parent? first = none)
    (secondRoot : arena.parent? second = none) (belowFirst : arena.IsBelow node first)
    (belowSecond : arena.IsBelow node second) : first = second :=
  (linked.leadsUp_ancestors node).root_unique (linked.mem_ancestors_iff.mpr belowFirst) firstRoot
    (linked.mem_ancestors_iff.mpr belowSecond) secondRoot

theorem eq_of_isBelow_of_root (isRoot : arena.parent? node = none) {top : Nat}
    (below : arena.IsBelow node top) : top = node :=
  List.mem_singleton.mp ((linked.mem_way_iff (.root isRoot)).mpr below)

end IsLinked

/-! ## Siblings -/

theorem after?_of_nodup {before rest : List Nat} {number : Nat}
    (distinct : (before ++ number :: rest).Nodup) :
    after? number (before ++ number :: rest) = rest.head? := by
  induction before with
  | nil => rw [List.nil_append, after?, if_pos rfl]
  | cons other before induction =>
    rw [List.cons_append, List.nodup_cons] at distinct
    have different : other ≠ number := by
      rintro rfl
      exact distinct.1 (List.mem_append_right _ List.mem_cons_self)
    rw [List.cons_append, after?, if_neg different, induction distinct.2]

namespace IsLinked

variable (linked : arena.IsLinked)

include linked

theorem leadsOn_of_append {parent : Nat} {before rest : List Nat}
    (split : arena.children parent = before ++ rest) : arena.LeadsOn rest.head? rest := by
  induction rest generalizing before with
  | nil => exact .done
  | cons number rest induction =>
    have listed : number ∈ arena.children parent :=
      split ▸ List.mem_append_right _ List.mem_cons_self
    have distinct := linked.nodup parent
    rw [split] at distinct
    have next : arena.nextSibling? number = rest.head? := by
      rw [nextSibling?, linked.mem_children_iff.mp listed, Option.bind_some, split,
        after?_of_nodup distinct]
    have splitLater : arena.children parent = (before ++ [number]) ++ rest := by simp [split]
    exact .next (next ▸ induction splitLater)

theorem leadsOn_children (parent : Nat) :
    arena.LeadsOn (arena.firstChild? parent) (arena.children parent) :=
  linked.leadsOn_of_append (List.nil_append _).symm

end IsLinked

/-! ## The tree below a node -/

theorem treeFrom_congr {other : Arena} {node : Nat}
    (same : ∀ number, arena.IsBelow number node →
      other.label number = arena.label number ∧ other.children number = arena.children number)
    (fuel : Nat) : treeFrom other fuel node = treeFrom arena fuel node := by
  rcases same node .refl with ⟨sameLabel, sameChildren⟩
  induction fuel generalizing node with
  | zero => rw [treeFrom, treeFrom, sameLabel]
  | succ fuel induction =>
    have each : ∀ child ∈ arena.children node,
        treeFrom other fuel child = treeFrom arena fuel child := by
      intro child member
      have sameBelow (number : Nat) (below : arena.IsBelow number child) :=
        same number (.head member below)
      exact induction sameBelow (sameBelow child .refl).1 (sameBelow child .refl).2
    rw [treeFrom, treeFrom, sameLabel, sameChildren, List.map_congr_left each]

namespace IsLinked

variable (linked : arena.IsLinked)

include linked

theorem treeFrom_succ {node : Nat} (isNode : node < arena.size) {fuel : Nat}
    (enough : arena.size ≤ fuel + (arena.ancestors node).length) :
    treeFrom arena (fuel + 1) node = treeFrom arena fuel node := by
  induction fuel generalizing node with
  | zero =>
    have short := linked.length_way_lt (linked.leadsUp_ancestors node) isNode
    omega
  | succ fuel induction =>
    have each : ∀ child ∈ arena.children node,
        treeFrom arena (fuel + 1) child = treeFrom arena fuel child := by
      intro child member
      have shorter : arena.size ≤ fuel + (arena.ancestors child).length := by
        rw [linked.ancestors_of_mem member, List.length_cons]
        omega
      exact induction (linked.lt_size_of_mem member) shorter
    rw [treeFrom, treeFrom, List.map_congr_left each]

theorem treeFrom_of_le {node : Nat} (isNode : node < arena.size) {fuel : Nat}
    (enough : arena.size ≤ fuel) : treeFrom arena fuel node = arena.treeAt node := by
  obtain ⟨more, rfl⟩ := Nat.exists_eq_add_of_le enough
  induction more with
  | zero => rfl
  | succ more induction =>
    have enoughBefore := Nat.le_add_right arena.size more
    rw [← Nat.add_assoc, linked.treeFrom_succ isNode (Nat.le_add_right_of_le enoughBefore),
      induction enoughBefore]

theorem treeAt_eq {node : Nat} (isNode : node < arena.size) :
    arena.treeAt node = .node (arena.label node) ((arena.children node).map arena.treeAt) := by
  rw [← linked.treeFrom_of_le isNode (Nat.le_succ _), treeFrom]
  rfl

theorem treeAt_congr {node : Nat} (isNode : node < arena.size) {other : Arena}
    (grows : arena.size ≤ other.size)
    (same : ∀ number, arena.IsBelow number node →
      other.label number = arena.label number ∧ other.children number = arena.children number) :
    other.treeAt node = arena.treeAt node := by
  rw [← linked.treeFrom_of_le isNode grows]
  exact treeFrom_congr same other.size

end IsLinked

/-! ## Making and adopting -/

theorem isLinked_empty : empty.IsLinked where
  mem_children_iff := by
    intro parent child
    rw [children_eq_nil_of_size_le (Nat.zero_le _), parent?_eq_none_of_size_le (Nat.zero_le _)]
    simp
  nodup parent := by
    rw [children_eq_nil_of_size_le (Nat.zero_le _)]
    exact .nil
  exists_way node := ⟨[], .root (parent?_eq_none_of_size_le (Nat.zero_le _))⟩

namespace IsLinked

variable (linked : arena.IsLinked)

include linked

theorem make (label : Label) : (arena.make label none).1.IsLinked where
  mem_children_iff := by
    intro parent child
    rw [children_make, parent?_make]
    exact linked.mem_children_iff
  nodup parent := by
    rw [children_make]
    exact linked.nodup parent
  exists_way node := by
    rcases linked.exists_way node with ⟨path, way⟩
    exact ⟨path, way.congr fun number _ => parent?_make arena number label⟩

section adopt

variable {parent child : Nat} (isNode : child < arena.size) (isRoot : arena.parent? child = none)
  (notBelow : ¬ arena.IsBelow parent child)

include isNode isRoot notBelow

/-- Whatever was below the adopted node is below its parent now, and all else stands where it
stood. -/
theorem exists_way_adopt (node : Nat) : ∃ path, (arena.adopt parent child).LeadsUp node path := by
  have stays {number : Nat} (other : number ≠ child) :
      (arena.adopt parent child).parent? number = arena.parent? number := by
    rw [parent?_adopt number parent isNode, if_neg other]
  rcases linked.exists_way parent with ⟨above, wayAbove⟩
  have parentWay : (arena.adopt parent child).LeadsUp parent above := by
    refine wayAbove.congr fun number on => stays ?_
    rintro rfl
    exact notBelow ((linked.mem_way_iff wayAbove).mp on)
  rcases linked.exists_way node with ⟨path, way⟩
  induction way with
  | @root node nodeIsRoot =>
    by_cases isChild : node = child
    · subst isChild
      have hasParent : (arena.adopt parent node).parent? node = some parent := by
        rw [parent?_adopt node parent isNode, if_pos rfl]
      exact ⟨_, .step hasParent parentWay⟩
    · exact ⟨[], .root ((stays isChild).trans nodeIsRoot)⟩
  | @step node upper path hasParent _ induction =>
    rcases induction with ⟨path, way⟩
    have other : node ≠ child := by
      rintro rfl
      cases isRoot.symm.trans hasParent
    exact ⟨_, .step ((stays other).trans hasParent) way⟩

theorem adopt (parentIsNode : parent < arena.size) : (arena.adopt parent child).IsLinked where
  mem_children_iff := by
    intro upper lower
    rw [children_adopt upper child parentIsNode, parent?_adopt lower parent isNode]
    by_cases isChild : lower = child
    · subst isChild
      rw [if_pos rfl, Option.some.injEq]
      by_cases isParent : upper = parent
      · simp [isParent]
      · simp [isParent, Ne.symm isParent, linked.not_mem_children isRoot upper]
    · rw [if_neg isChild, ← linked.mem_children_iff]
      by_cases isParent : upper = parent
      · simp [isParent, isChild]
      · simp [isParent]
  nodup upper := by
    rw [children_adopt upper child parentIsNode]
    split
    · rw [← List.concat_eq_append]
      exact .concat (linked.not_mem_children isRoot upper) (linked.nodup upper)
    · exact linked.nodup upper
  exists_way := linked.exists_way_adopt isNode isRoot notBelow

end adopt

end IsLinked

end ShadowLint.Arena
