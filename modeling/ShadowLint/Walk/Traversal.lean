import ShadowLint.Check.Core

/-!
Going through a tree with a list of pending moves instead of recursion. A node is
visited, then its children are gone through from first to last, and then it is
left. The calls are arbitrary; the first one that fails ends the traversal.
-/

namespace ShadowLint

inductive Move where
  | enter (site : Site)
  | leave (site : Site)

def Move.weight : Move → Nat
  | enter site => 2 * site.node.size
  | leave _ => 1

def Move.totalWeight : List Move → Nat
  | [] => 0
  | move :: rest => move.weight + totalWeight rest

theorem Move.totalWeight_append (first second : List Move) :
    totalWeight (first ++ second) = totalWeight first + totalWeight second := by
  induction first with
  | nil => simp [totalWeight]
  | cons move rest induction =>
    simp only [List.cons_append, totalWeight, induction]
    omega

structure Traversal (State : Type) where
  reached : Reached State
  entered : Nat

namespace Traversal

private theorem weight_children (site : Site) :
    Move.totalWeight (site.children.map Move.enter) = 2 * Tree.totalSize site.node.children := by
  rw [Site.children]
  induction site.node.children with
  | nil => rfl
  | cons child rest induction =>
    simp only [List.map_cons, Move.totalWeight, induction, Move.weight, Tree.totalSize_cons]
    omega

def run {State : Type} (visit leave : Site → State → Reached State) (pending : List Move)
    (entered : Nat) (journal : Journal) (state : State) : Traversal State :=
  match pending with
  | [] => ⟨⟨state, journal, none⟩, entered⟩
  | .leave site :: rest =>
    let left := leave site state
    match left.fault with
    | some fault => ⟨⟨left.state, journal ++ left.journal, some fault⟩, entered⟩
    | none => run visit leave rest entered (journal ++ left.journal) left.state
  | .enter site :: rest =>
    let visited := visit site state
    match visited.fault with
    | some fault => ⟨⟨visited.state, journal ++ visited.journal, some fault⟩, entered + 1⟩
    | none =>
      run visit leave (site.children.map .enter ++ .leave site :: rest) (entered + 1)
        (journal ++ visited.journal) visited.state
termination_by Move.totalWeight pending
decreasing_by
  · simp only [Move.totalWeight, Move.weight]
    omega
  · have := Tree.size_eq site.node
    simp only [Move.totalWeight_append, weight_children, Move.totalWeight, Move.weight]
    omega

def ofTree {State : Type} (visit leave : Site → State → Reached State) (root : Tree)
    (state : State) : Traversal State :=
  run visit leave [.enter (.root root)] 0 #[] state

end Traversal

end ShadowLint
