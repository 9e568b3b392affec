import ShadowLint.Walk.Traversal

/-!
The calls of a walk. Working off a list of pending moves makes exactly the calls
that recursion on the tree describes: a node is visited, its children are walked
in order, and the node is left (`Traversal.ofTree_reached`). A walk on which no call
fails enters every node once (`Traversal.ofTree_entered`).
-/

namespace ShadowLint

inductive Call where
  | visit (site : Site)
  | leave (site : Site)

namespace Call

def site : Call → Site
  | visit site => site
  | leave site => site

/-- The nodes that were entered before the call and are left after it, innermost first. -/
def around : Call → List Tree
  | visit site => site.ancestors
  | leave site => site.node :: site.ancestors

/-- The nodes that are entered and not left once the call was made. -/
def beyond : Call → List Tree
  | visit site => site.node :: site.ancestors
  | leave site => site.ancestors

end Call

namespace Tree

mutual

def callsUnder (ancestors : List Tree) : Tree → List Call
  | node label children =>
    .visit ⟨node label children, ancestors⟩ ::
      (callsUnderAll (node label children :: ancestors) children ++
        [.leave ⟨node label children, ancestors⟩])

def callsUnderAll (ancestors : List Tree) : List Tree → List Call
  | [] => []
  | tree :: rest => tree.callsUnder ancestors ++ callsUnderAll ancestors rest

end

def calls (tree : Tree) : List Call := tree.callsUnder []

theorem callsUnderAll_eq (ancestors trees : List Tree) :
    callsUnderAll ancestors trees = trees.flatMap (·.callsUnder ancestors) := by
  induction trees with
  | nil => rfl
  | cons tree rest induction => rw [callsUnderAll, induction, List.flatMap_cons]

theorem callsUnder_eq (ancestors : List Tree) (tree : Tree) :
    tree.callsUnder ancestors = .visit ⟨tree, ancestors⟩ ::
      (tree.children.flatMap (·.callsUnder (tree :: ancestors)) ++
        [.leave ⟨tree, ancestors⟩]) := by
  cases tree with
  | node label children => rw [callsUnder, callsUnderAll_eq, children_node]

end Tree

/-- Calls of which each is made where the one before it has led. -/
inductive Path : (start : List Tree) → List Call → (final : List Tree) → Prop
  | nil (start : List Tree) : Path start [] start
  | cons {call : Call} {rest : List Call} {final : List Tree} :
      Path call.beyond rest final → Path call.around (call :: rest) final

namespace Path

theorem append {start middle final : List Tree} {first second : List Call}
    (path : Path start first middle) (others : Path middle second final) :
    Path start (first ++ second) final := by
  induction path with
  | nil => exact others
  | cons _ induction => exact .cons (induction others)

theorem flatMap {around trees : List Tree} {calls : Tree → List Call}
    (each : ∀ tree ∈ trees, Path around (calls tree) around) :
    Path around (trees.flatMap calls) around := by
  induction trees with
  | nil => exact .nil around
  | cons tree rest induction =>
    exact (each tree List.mem_cons_self).append
      (induction fun other member => each other (List.mem_cons_of_mem _ member))

theorem callsUnder (tree : Tree) :
    ∀ ancestors, Path ancestors (tree.callsUnder ancestors) ancestors := by
  induction tree using Tree.induction_children with
  | step tree induction =>
    intro ancestors
    have below : Path (tree :: ancestors)
        (tree.children.flatMap (·.callsUnder (tree :: ancestors))) (tree :: ancestors) :=
      flatMap fun child member => induction child member (tree :: ancestors)
    have leaving : Path (tree :: ancestors) [.leave ⟨tree, ancestors⟩] ancestors :=
      @cons (.leave ⟨tree, ancestors⟩) [] _ (.nil ancestors)
    rw [Tree.callsUnder_eq]
    exact @cons (.visit ⟨tree, ancestors⟩) _ _ (below.append leaving)

end Path

namespace Call

variable {State Whole : Type} (visit leave : Site → State → Reached State)

def make : Call → State → Reached State
  | .visit site => visit site
  | .leave site => leave site

def makeAll : List Call → State → Reached State
  | [], state => .done state
  | call :: rest, state => (call.make visit leave state).andThen (makeAll rest)

@[simp] theorem makeAll_nil (state : State) : makeAll visit leave [] state = .done state := rfl

@[simp] theorem makeAll_cons (call : Call) (rest : List Call) (state : State) :
    makeAll visit leave (call :: rest) state =
      (call.make visit leave state).andThen (makeAll visit leave rest) := rfl

theorem makeAll_append (first second : List Call) (state : State) :
    makeAll visit leave (first ++ second) state =
      (makeAll visit leave first state).andThen (makeAll visit leave second) := by
  induction first generalizing state with
  | nil => simp
  | cons call rest induction =>
    simp only [List.cons_append, makeAll_cons, Reached.andThen_assoc]
    congr 1
    funext after
    exact induction after

theorem makeAll_singleton (call : Call) (state : State) :
    makeAll visit leave [call] state = call.make visit leave state :=
  Reached.andThen_done_right _

theorem makeAll_map (embed : State → Whole) (visitWhole leaveWhole : Site → Whole → Reached Whole)
    (visits : ∀ site state, visitWhole site (embed state) = (visit site state).map embed)
    (leaves : ∀ site state, leaveWhole site (embed state) = (leave site state).map embed)
    (calls : List Call) (state : State) :
    makeAll visitWhole leaveWhole calls (embed state) =
      (makeAll visit leave calls state).map embed := by
  induction calls generalizing state with
  | nil => rfl
  | cons call rest induction =>
    have first : call.make visitWhole leaveWhole (embed state) =
        (call.make visit leave state).map embed := by
      cases call with
      | visit site => exact visits site state
      | leave site => exact leaves site state
    rw [makeAll_cons, makeAll_cons, first]
    exact Reached.map_andThen _ _ _ _ induction

end Call

namespace Move

def calls : Move → List Call
  | enter site => site.node.callsUnder site.ancestors
  | leave site => [.leave site]

theorem calls_enter (site : Site) (rest : List Move) :
    (enter site :: rest).flatMap calls =
      .visit site :: (site.children.map enter ++ leave site :: rest).flatMap calls := by
  simp only [List.flatMap_cons, List.flatMap_append, List.flatMap_map, Site.children, calls]
  rw [Tree.callsUnder_eq]
  simp

def tree? : Move → Option Tree
  | enter site => some site.node
  | leave _ => none

theorem totalSize_enter (site : Site) (rest : List Move) :
    Tree.totalSize ((enter site :: rest).filterMap tree?) =
      1 + Tree.totalSize ((site.children.map enter ++ leave site :: rest).filterMap tree?) := by
  have children : (site.children.map enter).filterMap tree? = site.node.children := by
    simp [Site.children, Function.comp_def, tree?]
  simp only [List.filterMap_append, children, List.filterMap_cons, tree?, Tree.totalSize_append,
    Tree.totalSize_cons, Tree.size_eq, Nat.add_assoc]

end Move

namespace Traversal

variable {State : Type} (visit leave : Site → State → Reached State)

theorem run_reached (pending : List Move) (entered : Nat) (journal : Journal) (state : State) :
    (run visit leave pending entered journal state).reached =
      (Call.makeAll visit leave (pending.flatMap Move.calls) state).notedAfter journal := by
  induction pending, entered, journal, state using run.induct visit leave with
  | case1 entered journal state =>
    simp [run, Reached.done, Reached.notedAfter]
  | case2 entered journal state site rest left fault failed =>
    rw [run, List.flatMap_cons, Move.calls, List.singleton_append, Call.makeAll_cons, Call.make,
      Reached.andThen_of_fault failed]
    simp [left, failed, Reached.notedAfter]
  | case3 entered journal state site rest left succeeded induction =>
    rw [run, List.flatMap_cons, Move.calls, List.singleton_append, Call.makeAll_cons, Call.make,
      Reached.andThen_of_success succeeded, Reached.notedAfter_notedAfter, ← induction]
    simp [left, succeeded]
  | case4 entered journal state site rest visited fault failed =>
    rw [run, Move.calls_enter, Call.makeAll_cons, Call.make, Reached.andThen_of_fault failed]
    simp [visited, failed, Reached.notedAfter]
  | case5 entered journal state site rest visited succeeded induction =>
    rw [run, Move.calls_enter, Call.makeAll_cons, Call.make,
      Reached.andThen_of_success succeeded, Reached.notedAfter_notedAfter, ← induction]
    simp [visited, succeeded]

theorem ofTree_reached (root : Tree) (state : State) :
    (ofTree visit leave root state).reached = Call.makeAll visit leave root.calls state := by
  rw [ofTree, run_reached]
  simp [Move.calls, Site.root, Tree.calls]

theorem run_entered (pending : List Move) (entered : Nat) (journal : Journal) (state : State)
    (succeeded : (run visit leave pending entered journal state).reached.fault = none) :
    (run visit leave pending entered journal state).entered =
      entered + Tree.totalSize (pending.filterMap Move.tree?) := by
  induction pending, entered, journal, state using run.induct visit leave with
  | case1 entered journal state => simp [run]
  | case2 entered journal state site rest left fault failed =>
    simp [run, left, failed] at succeeded
  | case3 entered journal state site rest left leaves induction =>
    rw [run] at succeeded ⊢
    simp only [left, leaves] at succeeded ⊢
    rw [induction succeeded, List.filterMap_cons_none rfl]
  | case4 entered journal state site rest visited fault failed =>
    simp [run, visited, failed] at succeeded
  | case5 entered journal state site rest visited visits induction =>
    rw [run] at succeeded ⊢
    simp only [visited, visits] at succeeded ⊢
    rw [induction succeeded, Move.totalSize_enter, Nat.add_assoc]

theorem ofTree_entered (root : Tree) (state : State)
    (succeeded : (ofTree visit leave root state).reached.fault = none) :
    (ofTree visit leave root state).entered = root.size := by
  rw [ofTree, run_entered visit leave _ _ _ _ succeeded]
  simp [Move.tree?, Site.root]

end Traversal

end ShadowLint
