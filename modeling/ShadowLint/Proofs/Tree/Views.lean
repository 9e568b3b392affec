import Mathlib.Data.List.Nodup
import Mathlib.Data.List.Perm.Subperm
import ShadowLint.Proofs.Tree.Links
import ShadowLint.Proofs.Tree.Search

/-!
Nodes seen as sites. What is asked of a node of a linked arena through its links has the answer
that its site has: what is below it (`Arena.IsLinked.branchContains_eq`), and what surrounds it
(`Arena.inInterface_eq`, `Arena.IsLinked.isLocal_eq`, `Arena.IsLinked.inStatic_eq`). The sites
of the tree below a node without a parent are those of the nodes below it
(`Arena.IsLinked.mem_sites_iff`).
-/

namespace ShadowLint

/-! ## Questions about ancestors -/

namespace Context

variable {Node Other : Type} {kindOf : Node → Kind} {kindOfOther : Other → Kind}
  {view : Node → Other} (sameKind : ∀ node, kindOfOther (view node) = kindOf node)

include sameKind

theorem inInterface_map (ancestors : List Node) :
    inInterface kindOfOther (ancestors.map view) = inInterface kindOf ancestors := by
  induction ancestors with
  | nil => rfl
  | cons ancestor outer induction =>
    rw [List.map_cons, inInterface, inInterface, sameKind, induction]

theorem inStatic_map {isStatic : Node → Bool} {isStaticOther : Other → Bool}
    {ancestors : List Node}
    (sameStatic : ∀ node ∈ ancestors, isStaticOther (view node) = isStatic node) :
    inStatic kindOfOther isStaticOther (ancestors.map view) =
      inStatic kindOf isStatic ancestors := by
  induction ancestors with
  | nil => rfl
  | cons ancestor outer induction =>
    rcases List.forall_mem_cons.mp sameStatic with ⟨here, later⟩
    rw [List.map_cons, inStatic, inStatic, sameKind, here, induction later]

end Context

namespace Arena

variable {arena : Arena}

def siteAt (arena : Arena) (number : Nat) : Site :=
  ⟨arena.treeAt number, (arena.ancestors number).map arena.treeAt⟩

theorem label_treeAt (arena : Arena) (number : Nat) :
    (arena.treeAt number).label = arena.label number := by
  rw [treeAt]
  cases arena.size <;> rfl

theorem kind_treeAt (arena : Arena) (number : Nat) :
    (arena.treeAt number).kind = arena.kind number := by
  rw [Tree.kind, label_treeAt, Arena.kind]

/-! ## Reaching downwards -/

theorem nodup_eraseDups (numbers : List Nat) : numbers.eraseDups.Nodup := by
  match numbers with
  | [] => exact List.nodup_nil
  | number :: rest =>
    rw [List.eraseDups_cons]
    refine List.nodup_cons.mpr ⟨?_, nodup_eraseDups _⟩
    simp
termination_by numbers.length
decreasing_by exact Nat.lt_succ_of_le (List.length_filter_le _ _)

/-- How far the search below `top` has come: a node that was seen before the newest ones has
all its children among those seen. -/
structure Reaching (arena : Arena) (top : Nat) (seen newest : List Nat) : Prop where
  nodup : seen.Nodup
  top_mem : top ∈ seen
  isBelow : ∀ number ∈ seen, arena.IsBelow number top
  newest_subset : newest ⊆ seen
  closed : ∀ number ∈ seen, number ∉ newest → ∀ child ∈ arena.children number, child ∈ seen

def foundNext (arena : Arena) (seen newest : List Nat) : List Nat :=
  (newest.flatMap arena.children).eraseDups.filter fun number => !seen.contains number

theorem mem_foundNext_iff {seen newest : List Nat} {number : Nat} :
    number ∈ arena.foundNext seen newest ↔
      (∃ upper ∈ newest, number ∈ arena.children upper) ∧ number ∉ seen := by
  simp [foundNext]

namespace Reaching

variable {top : Nat} {seen newest : List Nat}

theorem initial (arena : Arena) (top : Nat) : arena.Reaching top [top] [top] where
  nodup := List.nodup_singleton top
  top_mem := List.mem_singleton_self top
  isBelow _ member := List.mem_singleton.mp member ▸ .refl
  newest_subset := List.Subset.refl _
  closed _ member other := absurd member other

theorem child_seen_or_found (reaching : arena.Reaching top seen newest) {number child : Nat}
    (member : number ∈ seen) (isChild : child ∈ arena.children number) :
    child ∈ seen ∨ child ∈ arena.foundNext seen newest := by
  by_cases isNewest : number ∈ newest
  · by_cases isSeen : child ∈ seen
    · exact .inl isSeen
    · exact .inr (mem_foundNext_iff.mpr ⟨⟨number, isNewest, isChild⟩, isSeen⟩)
  · exact .inl (reaching.closed number member isNewest child isChild)

theorem next (reaching : arena.Reaching top seen newest) :
    arena.Reaching top (seen ++ arena.foundNext seen newest) (arena.foundNext seen newest) where
  nodup := by
    refine List.nodup_append.mpr ⟨reaching.nodup, (nodup_eraseDups _).filter _, ?_⟩
    rintro number isSeen _ isFound rfl
    exact (mem_foundNext_iff.mp isFound).2 isSeen
  top_mem := List.mem_append_left _ reaching.top_mem
  isBelow number member := by
    rcases List.mem_append.mp member with isSeen | isFound
    · exact reaching.isBelow number isSeen
    · rcases (mem_foundNext_iff.mp isFound).1 with ⟨upper, isNewest, isChild⟩
      exact (reaching.isBelow upper (reaching.newest_subset isNewest)).tail isChild
  newest_subset := List.subset_append_right _ _
  closed _ member earlier _ isChild := by
    have isSeen := (List.mem_append.mp member).resolve_right earlier
    exact List.mem_append.mpr (reaching.child_seen_or_found isSeen isChild)

theorem mem_of_isBelow (reaching : arena.Reaching top seen newest)
    (complete : arena.foundNext seen newest = []) {number : Nat}
    (below : arena.IsBelow number top) : number ∈ seen := by
  induction below with
  | refl => exact reaching.top_mem
  | tail _ isChild induction =>
    refine (reaching.child_seen_or_found induction isChild).resolve_right ?_
    rw [complete]
    exact List.not_mem_nil

/-- With more steps left than nodes not seen, everything below is reached. -/
theorem mem_reachedWithin_iff (linked : arena.IsLinked) (isNode : top < arena.size)
    (reaching : arena.Reaching top seen newest) {steps : Nat}
    (enough : arena.size < seen.length + steps) {number : Nat} :
    number ∈ arena.reachedWithin steps seen newest ↔ arena.IsBelow number top := by
  induction steps generalizing seen newest with
  | zero =>
    have inside : seen ⊆ List.range arena.size := fun number member =>
      List.mem_range.mpr (linked.lt_size_of_isBelow (reaching.isBelow number member) isNode)
    have fits := (List.subperm_of_subset reaching.nodup inside).length_le
    rw [List.length_range] at fits
    omega
  | succ steps induction =>
    rw [reachedWithin, ← foundNext]
    split
    · rename_i isEmpty
      exact ⟨reaching.isBelow number, reaching.mem_of_isBelow (List.isEmpty_iff.mp isEmpty)⟩
    · rename_i nonempty
      have further : 0 < (arena.foundNext seen newest).length :=
        List.length_pos_iff.mpr (mt List.isEmpty_iff.mpr nonempty)
      refine induction reaching.next ?_
      rw [List.length_append]
      omega

end Reaching

namespace IsLinked

variable (linked : arena.IsLinked) {node : Nat} (isNode : node < arena.size)

include linked isNode

/-! ## Below a node -/

theorem children_treeAt :
    (arena.treeAt node).children = (arena.children node).map arena.treeAt := by
  rw [linked.treeAt_eq isNode, Tree.children_node]

theorem firstOf?_eq (kind : Kind) :
    (arena.treeAt node).firstOf? kind = (arena.firstOf? node kind).map arena.treeAt := by
  rw [Tree.firstOf?, linked.children_treeAt isNode, firstOf?, List.find?_map]
  simp only [Function.comp_def, kind_treeAt]

theorem countOf_eq (kind : Kind) : (arena.treeAt node).countOf kind = arena.countOf node kind := by
  rw [Tree.countOf, linked.children_treeAt isNode, countOf, List.countP_map]
  simp only [Function.comp_def, kind_treeAt]

theorem holds_treeAt_iff {kind : Kind} :
    (arena.treeAt node).Holds kind ↔
      ∃ lower, arena.IsBelow lower node ∧ arena.kind lower = kind := by
  constructor
  · intro holds
    generalize whole : arena.treeAt node = tree at holds
    induction holds generalizing node with
    | atRoot equal => exact ⟨node, .refl, by rw [← equal, ← whole, kind_treeAt]⟩
    | inChild member _ induction =>
      rw [← whole, linked.children_treeAt isNode] at member
      rcases List.mem_map.mp member with ⟨child, isChild, same⟩
      rcases induction (linked.lt_size_of_mem isChild) same with ⟨lower, below, equal⟩
      exact ⟨lower, .head isChild below, equal⟩
  · rintro ⟨lower, below, equal⟩
    induction below using Relation.ReflTransGen.head_induction_on with
    | refl => exact .atRoot ((kind_treeAt arena lower).trans equal)
    | @head upper child isChild _ induction =>
      refine .inChild ?_ (induction (linked.lt_size_of_mem isChild))
      rw [linked.children_treeAt isNode]
      exact List.mem_map_of_mem isChild

theorem branchContains_eq (kind : Kind) :
    arena.branchContains node kind = (arena.treeAt node).branchContains kind := by
  rw [Bool.eq_iff_iff, Tree.branchContains_iff, linked.holds_treeAt_iff isNode, branchContains,
    List.any_eq_true]
  have enough : arena.size < [node].length + arena.size := by simp
  simp only [(Reaching.initial arena node).mem_reachedWithin_iff linked isNode enough, beq_iff_eq]

theorem isDeclaredStatic_eq :
    arena.isDeclaredStatic node = (arena.treeAt node).isDeclaredStatic := by
  rw [isDeclaredStatic, Tree.isDeclaredStatic, linked.firstOf?_eq isNode]
  cases found : arena.firstOf? node .modifiers with
  | none => rfl
  | some modifiers =>
    have isChild := List.mem_of_find?_eq_some found
    exact linked.branchContains_eq (linked.lt_size_of_mem isChild) .literalStatic

end IsLinked

/-! ## Around a node -/

theorem inInterface_eq (arena : Arena) (node : Nat) :
    arena.inInterface node = (arena.siteAt node).inInterface := by
  rw [inInterface, Site.inInterface, siteAt, Context.inInterface_map (kind_treeAt arena)]

namespace IsLinked

variable (linked : arena.IsLinked)

include linked

theorem lt_size_of_mem_way {node : Nat} {path : List Nat} (way : arena.LeadsUp node path) :
    ∀ upper ∈ path, upper < arena.size := by
  induction way with
  | root => nofun
  | step hasParent _ induction =>
    have isChild := linked.mem_children_iff.mpr hasParent
    exact List.forall_mem_cons.mpr ⟨lt_size_of_mem_children isChild, induction⟩

theorem head?_ancestors (node : Nat) : (arena.ancestors node).head? = arena.parent? node := by
  have way := linked.leadsUp_ancestors node
  generalize arena.ancestors node = path at way
  cases way with
  | root isRoot => exact isRoot.symm
  | step hasParent _ => exact hasParent.symm

theorem isLocal_eq (node : Nat) : arena.isLocal node = (arena.siteAt node).isLocal := by
  rw [isLocal, Site.isLocal, Site.kind, Site.parent?, siteAt, kind_treeAt, List.head?_map,
    linked.head?_ancestors, Option.map_map]
  simp only [Function.comp_def, kind_treeAt]

theorem inStatic_eq (node : Nat) : arena.inStatic node = (arena.siteAt node).inStatic := by
  have sameStatic : ∀ upper ∈ arena.ancestors node,
      (arena.treeAt upper).isDeclaredStatic = arena.isDeclaredStatic upper := by
    intro upper member
    have isNode := linked.lt_size_of_mem_way (linked.leadsUp_ancestors node) upper member
    exact (linked.isDeclaredStatic_eq isNode).symm
  rw [inStatic, Site.inStatic, siteAt, Context.inStatic_map (kind_treeAt arena) sameStatic]

/-! ## Sites -/

theorem mem_sitesUnder_iff {top : Nat} (isNode : top < arena.size) {site : Site} :
    site ∈ (arena.treeAt top).sitesUnder ((arena.ancestors top).map arena.treeAt) ↔
      ∃ node, arena.IsBelow node top ∧ arena.siteAt node = site := by
  generalize whole : arena.treeAt top = tree
  induction tree using Tree.induction_children generalizing top with
  | step tree induction =>
    subst whole
    rw [linked.children_treeAt isNode] at induction
    rw [Tree.sitesUnder_eq, List.mem_cons, List.mem_flatMap, linked.children_treeAt isNode]
    constructor
    · rintro (rfl | ⟨_, isChild, inside⟩)
      · exact ⟨top, .refl, rfl⟩
      · rcases List.mem_map.mp isChild with ⟨child, member, rfl⟩
        rw [← List.map_cons, ← linked.ancestors_of_mem member] at inside
        have under := induction _ isChild (linked.lt_size_of_mem member) rfl
        rcases under.mp inside with ⟨node, below, same⟩
        exact ⟨node, .head member below, same⟩
    · rintro ⟨node, below, rfl⟩
      rcases Relation.ReflTransGen.cases_head below with rfl | ⟨child, member, below⟩
      · exact .inl rfl
      · have isChild : arena.treeAt child ∈ (arena.children top).map arena.treeAt :=
          List.mem_map_of_mem member
        have under := induction _ isChild (linked.lt_size_of_mem member) rfl
        refine .inr ⟨_, isChild, ?_⟩
        rw [← List.map_cons, ← linked.ancestors_of_mem member]
        exact under.mpr ⟨node, below, rfl⟩

theorem mem_sites_iff {root : Nat} (isNode : root < arena.size)
    (isRoot : arena.parent? root = none) {site : Site} :
    site ∈ (arena.treeAt root).sites ↔
      ∃ node, arena.IsBelow node root ∧ arena.siteAt node = site := by
  rw [← linked.mem_sitesUnder_iff isNode, linked.ancestors_eq (.root isRoot)]
  rfl

end IsLinked

end Arena

end ShadowLint
