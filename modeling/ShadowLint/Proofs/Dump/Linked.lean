import ShadowLint.Dump.Linked
import ShadowLint.Proofs.Tree.Planting

/-!
Links of trees. However nodes are made and adopted, in an orderly sequence both kinds of links
say the same at every time, and so do the ways up and along the siblings; and the nodes of a
loaded dump come from such a sequence (`Arena.links_stay_consistent`).
-/

namespace ShadowLint

namespace Dump

/-! ## Loading with links -/

mutual

theorem build_eq (arena : Arena) : (written : Written) →
    build arena written = (meaning written).map arena.plant
  | .node name fromName attributes children => by
    rw [build, meaning, buildAll_eq arena children]
    cases Kind.ofName? (String.ofList name) with
    | none => rfl
    | some kind =>
      dsimp only
      cases readingOf ⟨[], 0, 0⟩ attributes with
      | error flaw => rfl
      | ok reading =>
        dsimp only
        cases meanings children with
        | error flaw => rfl
        | ok trees => simp only [Except.map, Arena.plant]

theorem buildAll_eq (arena : Arena) : (forest : List Written) →
    buildAll arena forest = (meanings forest).map arena.plantAll
  | [] => by rw [buildAll, meanings, Except.map, Arena.plantAll]
  | written :: others => by
    rw [buildAll, meanings, build_eq arena written]
    cases meaning written with
    | error flaw => rfl
    | ok tree =>
      simp only [Except.map]
      rw [buildAll_eq _ others]
      cases meanings others with
      | error flaw => rfl
      | ok trees => simp only [Except.map, Arena.plantAll]

end

theorem loadLinked_eq (text : List Char) :
    loadLinked text = (loadTrees text).map Arena.empty.plantAll := by
  rw [loadLinked, loadTrees, treesOf]
  cases checkNesting text with
  | error error => rfl
  | ok depth =>
    dsimp only
    rcases readForest text with ⟨forest, rest⟩
    cases rest with
    | cons char rest => rfl
    | nil =>
      dsimp only
      rw [buildAll_eq]
      cases meanings forest with
      | ok trees => rfl
      | error flaw => cases flaw <;> rfl

end Dump

namespace Arena

/-- Links stay consistent however trees are put together. A node lists the nodes that it adopted,
once each and in order, and these are the nodes whose parent it is; a node has no parent unless
it was adopted. The ancestors of a node are the way up from it, which passes what the node is
below and ends; going on from a first child to the next sibling passes the children and ends.
Every loaded forest is put together like this. Each of its roots is a node without a parent, and
no node is below two of them. -/
theorem links_stay_consistent :
    (∀ deeds, Orderly deeds →
      let arena := grown deeds
      (∀ parent child, arena.parent? child = some parent ↔ child ∈ arena.children parent) ∧
      (∀ parent, arena.children parent = adoptedBy parent deeds ∧
        (arena.children parent).Nodup) ∧
      (∀ node, arena.parent? node = none ↔ ∀ parent, .adopt parent node ∉ deeds) ∧
      (∀ node, arena.LeadsUp node (arena.ancestors node) ∧
        (node :: arena.ancestors node).Nodup ∧
        ∀ upper, upper ∈ node :: arena.ancestors node ↔ arena.IsBelow node upper) ∧
      ∀ parent, arena.LeadsOn (arena.firstChild? parent) (arena.children parent)) ∧
    ∀ text trees, Dump.loadTrees text = .ok trees →
      ∃ deeds roots, Orderly deeds ∧ Dump.loadLinked text = .ok (grown deeds, roots) ∧
        (grown deeds).size = Tree.totalSize trees ∧
        roots.map (grown deeds).treeAt = trees ∧ roots.Nodup ∧
        (∀ root ∈ roots, root < (grown deeds).size ∧ (grown deeds).parent? root = none) ∧
        ∀ first ∈ roots, ∀ second ∈ roots, ∀ node, (grown deeds).IsBelow node first →
          (grown deeds).IsBelow node second → first = second := by
  constructor
  · intro deeds orderly arena
    have linked : arena.IsLinked := orderly.isLinked
    refine ⟨fun _ _ => linked.mem_children_iff.symm,
      fun parent => ⟨orderly.children_eq parent, linked.nodup parent⟩,
      fun node => orderly.parent?_eq_none_iff, fun node => ?_, linked.leadsOn_children⟩
    have way := linked.leadsUp_ancestors node
    exact ⟨way, way.nodup, fun upper => linked.mem_ancestors_iff⟩
  · intro text trees loaded
    have planted := planted_plantAll IsGrown.empty trees
    rcases planted.isGrown with ⟨deeds, orderly, sameArena⟩
    rw [← sameArena] at planted
    have linked := Dump.loadLinked_eq text
    rw [loaded] at linked
    refine ⟨deeds, (empty.plantAll trees).2, orderly, ?_, ?_, planted.treesAt, planted.distinct,
      fun root member => ⟨(planted.areNew root member).2, planted.areRoots root member⟩, ?_⟩
    · rw [linked, sameArena]
      rfl
    · rw [planted.size_eq]
      exact Nat.zero_add _
    · intro first firstIn second secondIn node belowFirst belowSecond
      exact orderly.isLinked.eq_of_isBelow (planted.areRoots first firstIn)
        (planted.areRoots second secondIn) belowFirst belowSecond

/-- The second node gets a child, is attached to the first, and then gets another child; the
last node stands alone. -/
def regrown : List Deed :=
  [.make (.make .classDef "" 0 0), .make (.make .objBlock "" 0 0), .make (.make .ident "x" 0 0),
    .adopt 1 2, .adopt 0 1, .make (.make .ident "y" 0 0), .adopt 1 3,
    .make (.make .ident "z" 0 0)]

def twoTrees : List Tree :=
  [.node (.make .objBlock "" 0 0)
    [.node (.make .ident "x" 0 0) [], .node (.make .ident "y" 0 0) []],
    .node (.make .ident "z" 0 0) []]

def twoTreesText : List Char := "(OBJBLOCK(IDENT\"x\")(IDENT\"y\"))(IDENT\"z\")".toList

theorem regrown_links :
    let arena := grown regrown
    Orderly regrown ∧ arena.LeadsUp 3 [1, 0] ∧ arena.LeadsOn (some 2) [2, 3] ∧
      arena.parent? 4 = none ∧ Dump.loadTrees twoTreesText = .ok twoTrees ∧
      ∃ deeds roots, Orderly deeds ∧ Dump.loadLinked twoTreesText = .ok (grown deeds, roots) ∧
        roots.map (grown deeds).treeAt = twoTrees ∧ roots.Nodup := by
  intro arena
  have orderly : Orderly regrown := by decide
  have loaded : Dump.loadTrees twoTreesText = .ok twoTrees := by decide +kernel
  rcases links_stay_consistent.1 regrown orderly with ⟨-, -, unadopted, up, on⟩
  rcases links_stay_consistent.2 twoTreesText twoTrees loaded with
    ⟨deeds, roots, orderlyToo, linked, -, treesAt, distinct, -⟩
  have ancestors : arena.ancestors 3 = [1, 0] := by decide
  have first : arena.firstChild? 1 = some 2 := by decide
  have children : arena.children 1 = [2, 3] := by decide
  have alone : ∀ parent, .adopt parent 4 ∉ regrown := by simp [regrown]
  exact ⟨orderly, ancestors ▸ (up 3).1, first ▸ children ▸ on 1, (unadopted 4).mpr alone, loaded,
    deeds, roots, orderlyToo, linked, treesAt, distinct⟩

end Arena

end ShadowLint
