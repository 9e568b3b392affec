import ShadowLint.Proofs.Tree.Deeds

/-!
Planting trees. The nodes of a tree are made from the leaves up, and each adopts its children
when it is made; so an orderly sequence gives them, what is planted is read off again, and what
was there before stays as it was (`Arena.planted_plantAll`).
-/

namespace ShadowLint.Arena

variable {arena : Arena} {parent : Nat}

/-! ## Adopting several children -/

def adoptAll (arena : Arena) (parent : Nat) (children : List Nat) : Arena :=
  children.foldl (fun arena child => arena.adopt parent child) arena

theorem adoptAll_cons (arena : Arena) (parent child : Nat) (others : List Nat) :
    arena.adoptAll parent (child :: others) = (arena.adopt parent child).adoptAll parent others :=
  rfl

@[simp] theorem size_adoptAll (children : List Nat) :
    (arena.adoptAll parent children).size = arena.size := by
  induction children generalizing arena with
  | nil => rfl
  | cons child others induction => rw [adoptAll_cons, induction, size_adopt]

@[simp] theorem label_adoptAll (number : Nat) (children : List Nat) :
    (arena.adoptAll parent children).label number = arena.label number := by
  induction children generalizing arena with
  | nil => rfl
  | cons child others induction => rw [adoptAll_cons, induction, label_adopt]

theorem children_adoptAll (isNode : parent < arena.size) (number : Nat) (children : List Nat) :
    (arena.adoptAll parent children).children number =
      if number = parent then arena.children number ++ children else arena.children number := by
  induction children generalizing arena with
  | nil => simp [adoptAll]
  | cons child others induction =>
    have isNodeToo : parent < (arena.adopt parent child).size := by rwa [size_adopt]
    rw [adoptAll_cons, induction isNodeToo, children_adopt number child isNode]
    split
    · rw [List.append_assoc]
      rfl
    · rfl

theorem getElem?_adoptAll {number : Nat} {children : List Nat} (notParent : number ≠ parent)
    (notChild : number ∉ children) :
    (arena.adoptAll parent children).nodes[number]? = arena.nodes[number]? := by
  induction children generalizing arena with
  | nil => rfl
  | cons child others induction =>
    have other := List.ne_of_not_mem_cons notChild
    have notLater := List.not_mem_of_not_mem_cons notChild
    rw [adoptAll_cons, induction notLater, getElem?_adopt]
    simp [notParent, other]

theorem parent?_adoptAll {number : Nat} {children : List Nat}
    (areNodes : ∀ child ∈ children, child < arena.size) (notChild : number ∉ children) :
    (arena.adoptAll parent children).parent? number = arena.parent? number := by
  induction children generalizing arena with
  | nil => rfl
  | cons child others induction =>
    rcases List.forall_mem_cons.mp areNodes with ⟨isNode, areNodesLater⟩
    have other := List.ne_of_not_mem_cons notChild
    have notLater := List.not_mem_of_not_mem_cons notChild
    have areNodesToo : ∀ child' ∈ others, child' < (arena.adopt parent child).size := by
      simpa using areNodesLater
    rw [adoptAll_cons, induction areNodesToo notLater, parent?_adopt number parent isNode,
      if_neg other]

theorem IsGrown.adoptAll (isGrown : arena.IsGrown) (isNode : parent < arena.size)
    (isRoot : arena.parent? parent = none) {children : List Nat}
    (roots : ∀ child ∈ children, child < arena.size ∧ arena.parent? child = none)
    (distinct : (parent :: children).Nodup) : (arena.adoptAll parent children).IsGrown := by
  induction children generalizing arena with
  | nil => exact isGrown
  | cons child others induction =>
    rcases List.forall_mem_cons.mp roots with ⟨⟨childIsNode, childIsRoot⟩, rootsLater⟩
    simp only [List.nodup_cons, List.mem_cons, not_or] at distinct
    rcases distinct with ⟨⟨different, notLater⟩, notAgain, distinctLater⟩
    have notBelow : ¬ arena.IsBelow parent child := fun below =>
      different (isGrown.isLinked.eq_of_isBelow_of_root isRoot below).symm
    have stays {number : Nat} (other : number ≠ child) (isRoot : arena.parent? number = none) :
        (arena.adopt parent child).parent? number = none := by
      rw [parent?_adopt number parent childIsNode, if_neg other, isRoot]
    rw [adoptAll_cons]
    refine induction (isGrown.adopt isNode childIsNode childIsRoot notBelow) ?_
      (stays different isRoot) ?_ (List.nodup_cons.mpr ⟨notLater, distinctLater⟩)
    · rwa [size_adopt]
    · intro other member
      rcases rootsLater other member with ⟨otherIsNode, otherIsRoot⟩
      have otherIsOther : other ≠ child := fun same => notAgain (same ▸ member)
      exact ⟨by rwa [size_adopt], stays otherIsOther otherIsRoot⟩

/-! ## Planting -/

/-- In the second arena there are new roots, which stand for the trees; there is nothing else
that is not in the first, and all that is in the first is as it was. -/
structure Planted (before after : Arena) (roots : List Nat) (trees : List Tree) : Prop where
  isGrown : after.IsGrown
  size_eq : after.size = before.size + Tree.totalSize trees
  kept : ∀ number < before.size, after.nodes[number]? = before.nodes[number]?
  areNew : ∀ root ∈ roots, before.size ≤ root ∧ root < after.size
  areRoots : ∀ root ∈ roots, after.parent? root = none
  distinct : roots.Nodup
  treesAt : roots.map after.treeAt = trees

namespace Planted

variable {before middle after : Arena} {roots others : List Nat} {trees more : List Tree}

theorem nil (isGrown : arena.IsGrown) : Planted arena arena [] [] where
  isGrown := isGrown
  size_eq := rfl
  kept _ _ := rfl
  areNew := nofun
  areRoots := nofun
  distinct := .nil
  treesAt := rfl

theorem size_le (planted : Planted before after roots trees) : before.size ≤ after.size := by
  rw [planted.size_eq]
  exact Nat.le_add_right _ _

theorem label_eq (planted : Planted before after roots trees) {number : Nat}
    (isOld : number < before.size) : after.label number = before.label number := by
  rw [label, planted.kept number isOld, label]

theorem children_eq (planted : Planted before after roots trees) {number : Nat}
    (isOld : number < before.size) : after.children number = before.children number := by
  rw [children, planted.kept number isOld, children]

theorem parent?_eq (planted : Planted before after roots trees) {number : Nat}
    (isOld : number < before.size) : after.parent? number = before.parent? number := by
  rw [parent?, planted.kept number isOld, parent?]

theorem treeAt_eq (linked : before.IsLinked) (planted : Planted before after roots trees)
    {number : Nat} (isOld : number < before.size) : after.treeAt number = before.treeAt number :=
  linked.treeAt_congr isOld planted.size_le fun _ below =>
    have isOldToo := linked.lt_size_of_isBelow below isOld
    ⟨planted.label_eq isOldToo, planted.children_eq isOldToo⟩

theorem append (first : Planted before middle roots trees)
    (second : Planted middle after others more) :
    Planted before after (roots ++ others) (trees ++ more) where
  isGrown := second.isGrown
  size_eq := by
    rw [second.size_eq, first.size_eq, Tree.totalSize_append, Nat.add_assoc]
  kept number isOld :=
    (second.kept number (Nat.lt_of_lt_of_le isOld first.size_le)).trans (first.kept number isOld)
  areNew := by
    refine List.forall_mem_append.mpr ⟨fun root member => ?_, fun root member => ?_⟩
    · rcases first.areNew root member with ⟨new, inside⟩
      exact ⟨new, Nat.lt_of_lt_of_le inside second.size_le⟩
    · rcases second.areNew root member with ⟨new, inside⟩
      exact ⟨Nat.le_trans first.size_le new, inside⟩
  areRoots := by
    refine List.forall_mem_append.mpr ⟨fun root member => ?_, second.areRoots⟩
    rw [second.parent?_eq (first.areNew root member).2, first.areRoots root member]
  distinct := by
    refine List.nodup_append.mpr ⟨first.distinct, second.distinct, ?_⟩
    intro root member other otherMember
    exact Nat.ne_of_lt
      (Nat.lt_of_lt_of_le (first.areNew root member).2 (second.areNew other otherMember).1)
  treesAt := by
    have same : ∀ root ∈ roots, after.treeAt root = middle.treeAt root := fun root member =>
      second.treeAt_eq first.isGrown.isLinked (first.areNew root member).2
    rw [List.map_append, List.map_congr_left same, first.treesAt, second.treesAt]

theorem join (planted : Planted before middle roots trees) (label : Label) :
    Planted before ((middle.make label none).1.adoptAll middle.size roots) [middle.size]
      [.node label trees] := by
  have isNode : middle.size < (middle.make label none).1.size := by
    rw [size_make]
    exact Nat.lt_succ_self _
  have isRoot : (middle.make label none).1.parent? middle.size = none := by
    rw [parent?_make, parent?_eq_none_of_size_le (Nat.le_refl _)]
  have rootsInside : ∀ root ∈ roots, root < (middle.make label none).1.size ∧
      (middle.make label none).1.parent? root = none := by
    intro root member
    rw [size_make, parent?_make]
    exact ⟨Nat.lt_succ_of_lt (planted.areNew root member).2, planted.areRoots root member⟩
  have notAmong : middle.size ∉ roots := fun member =>
    Nat.lt_irrefl _ (planted.areNew _ member).2
  have isGrown := (planted.isGrown.make label).adoptAll isNode isRoot rootsInside
    (List.nodup_cons.mpr ⟨notAmong, planted.distinct⟩)
  have same : ∀ root ∈ roots,
      ((middle.make label none).1.adoptAll middle.size roots).treeAt root = middle.treeAt root := by
    intro root member
    have rootIsNode := (planted.areNew root member).2
    refine planted.isGrown.isLinked.treeAt_congr rootIsNode (by simp) fun number below => ?_
    have isOld := planted.isGrown.isLinked.lt_size_of_isBelow below rootIsNode
    rw [label_adoptAll, label_make, if_neg (Nat.ne_of_lt isOld), children_adoptAll isNode,
      if_neg (Nat.ne_of_lt isOld), children_make]
    exact ⟨rfl, rfl⟩
  refine ⟨isGrown, ?size, ?kept, ?areNew, ?areRoots, List.nodup_singleton _, ?treesAt⟩
  case size =>
    rw [size_adoptAll, size_make, planted.size_eq, Tree.totalSize_cons, Tree.totalSize_nil,
      Tree.size]
    omega
  case kept =>
    intro number isOld
    have isOldToo := Nat.lt_of_lt_of_le isOld planted.size_le
    have notRoot : number ∉ roots := fun member =>
      absurd (planted.areNew number member).1 (Nat.not_le_of_lt isOld)
    rw [getElem?_adoptAll (Nat.ne_of_lt isOldToo) notRoot, getElem?_make,
      if_neg (Nat.ne_of_lt isOldToo), planted.kept number isOld]
  case areNew =>
    rw [List.forall_mem_singleton, size_adoptAll]
    exact ⟨planted.size_le, isNode⟩
  case areRoots =>
    rw [List.forall_mem_singleton,
      parent?_adoptAll (fun root member => (rootsInside root member).1) notAmong, isRoot]
  case treesAt =>
    rw [List.map_singleton, isGrown.isLinked.treeAt_eq (by rwa [size_adoptAll]), label_adoptAll,
      label_make, if_pos rfl, children_adoptAll isNode, if_pos rfl, children_make,
      children_eq_nil_of_size_le (Nat.le_refl _), List.nil_append, List.map_congr_left same,
      planted.treesAt]

end Planted

mutual

theorem planted_plant {before : Arena} (isGrown : before.IsGrown) : (tree : Tree) →
    Planted before (before.plant tree).1 [(before.plant tree).2] [tree]
  | .node label children => by
    rw [plant]
    exact (planted_plantAll isGrown children).join label

theorem planted_plantAll {before : Arena} (isGrown : before.IsGrown) : (trees : List Tree) →
    Planted before (before.plantAll trees).1 (before.plantAll trees).2 trees
  | [] => by
    rw [plantAll]
    exact .nil isGrown
  | tree :: others => by
    have first := planted_plant isGrown tree
    rw [plantAll]
    exact first.append (planted_plantAll first.isGrown others)

end

end ShadowLint.Arena
